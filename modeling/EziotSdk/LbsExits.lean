import EziotSdk.LbsTransport

/-!
# What the exits of an exchange leave unchanged

Every function of the transport but the installing ones keeps the installed
credentials and the saved key-values, however it ends, and never ends with
the code of success.  The sending functions keep, besides, everything that a
later answer is read with.
-/

namespace EziotSdk

open ErrorState

variable {Context Value : Type}

/-- An early end that the caller sees as one. -/
def Reported : Abort → Prop
  | .code error => error ≠ .succ
  | .nullDereference => False

instance : DecidablePred Reported
  | .code error => inferInstanceAs (Decidable (error ≠ .succ))
  | .nullDereference => inferInstanceAs (Decidable False)

/-- What the kernel holds and what is saved. -/
def installed (session : LbsSession Context) :
    LbsCredentials × (SdkKeyvalueType → Bytes) :=
  (session.kernel.credentials, session.keyValues)

/-- The session without what only the sending side uses. -/
def unsent (session : LbsSession Context) : LbsSession Context :=
  { session with
    kernel := { session.kernel with serverIp := [] }
    affair := { session.affair with globalOutPacket := LbsOutPacket.empty }
    network := ⟨[], [], session.network.incoming, []⟩ }

theorem keeps_installed
    {action : LbsStep Context Value}
    (hkeeps : Keeps unsent Reported action) :
    Keeps installed Reported action :=
  hkeeps.map installed

/-! ## The network and the sending functions -/

theorem keeps_reported
    {outcome : Except MkernelInternalError Value} {View : Type}
    {view : LbsSession Context → View}
    (houtcome : ∀ error, outcome = .error error → error ≠ .succ) :
    Keeps view Reported (reported outcome) := by
  apply keeps_fromExcept
  intro abort habort
  cases outcome with
  | ok value => cases habort
  | error error =>
      cases habort
      exact houtcome error rfl

theorem keeps_nextOutcome :
    Keeps (@unsent Context) Reported nextOutcome :=
  keeps_bind keeps_get fun _ =>
    keeps_bind (keeps_modify fun _ => rfl) fun _ => keeps_pure _

theorem keeps_netWorkWrite (data : Bytes) :
    Keeps (@unsent Context) Reported (netWorkWrite data) :=
  keeps_bind keeps_nextOutcome fun _ =>
    keeps_bind (keeps_reject id) fun _ =>
      keeps_modify fun _ => rfl

theorem keeps_lbsConnectByIp
    {byName : MkernelInternalError} (hbyName : byName ≠ .succ) :
    Keeps (@unsent Context) Reported
      (lbsConnectByIp byName) :=
  keeps_bind keeps_nextOutcome fun _ =>
    keeps_bind (keeps_reject fun _ => by decide) fun _ =>
      keeps_bind keeps_get fun _ =>
        keeps_bind (keeps_reject fun _ => hbyName) fun _ =>
          keeps_bind keeps_nextOutcome fun _ =>
            keeps_bind (keeps_reject fun _ => by decide) fun _ =>
              keeps_reject id

theorem keeps_lbsConnectRetry (byName : MkernelInternalError) :
    Keeps (@unsent Context) Reported
      (lbsConnectRetry byName) := by
  unfold lbsConnectRetry
  split
  · exact keeps_pure ()
  · next hbyName => exact keeps_lbsConnectByIp hbyName

theorem keeps_lbsConnect :
    Keeps (@unsent Context) Reported lbsConnect :=
  keeps_bind keeps_nextOutcome fun _ =>
    keeps_bind (keeps_reject fun _ => by decide) fun _ =>
      keeps_bind keeps_nextOutcome fun byName =>
        keeps_bind (keeps_lbsConnectRetry byName) fun _ =>
          keeps_modify fun _ => rfl

theorem keeps_appendHead (data : Bytes) :
    Keeps (@unsent Context) Reported (appendHead data) :=
  keeps_modify fun _ => rfl

theorem keeps_appendPayload (data : Bytes) :
    Keeps (@unsent Context) Reported (appendPayload data) :=
  keeps_modify fun _ => rfl

theorem keeps_serializeHead (low cmd : ℕ) :
    Keeps (@unsent Context) Reported (serializeHead low cmd) :=
  keeps_bind keeps_get fun _ => keeps_appendHead _

theorem keeps_commonSerialize (form low high : UInt8) :
    Keeps (@unsent Context) Reported
      (commonSerialize form low high) :=
  keeps_bind keeps_get fun _ =>
    keeps_bind (keeps_reject fun _ => by decide) fun _ =>
      keeps_appendPayload _

theorem keeps_sendLbsMsg :
    Keeps (@unsent Context) Reported sendLbsMsg :=
  keeps_bind keeps_get fun _ =>
    keeps_bind (keeps_netWorkWrite _) fun _ => keeps_netWorkWrite _

/-- The end of every message whose sending is not looked at. -/
theorem keeps_headAndSend (low cmd : ℕ) :
    Keeps (@unsent Context) Reported (do
      serializeHead low cmd
      ignoreError sendLbsMsg) :=
  keeps_bind (keeps_serializeHead low cmd) fun _ =>
    keeps_ignoreError keeps_sendLbsMsg

theorem digitalSign_ne_succ
    {lib : LbsLibraries Context} {signSrc masterKey : Bytes}
    {error : MkernelInternalError}
    (herror : digitalSign lib signSrc masterKey = .error error) :
    error ≠ .succ := by
  unfold digitalSign at herror
  split at herror
  · cases herror
    decide
  · cases herror

theorem keeps_digitalSignSerializeSha384 (lib : LbsLibraries Context) :
    Keeps unsent Reported (digitalSignSerializeSha384 lib) :=
  keeps_bind keeps_get fun _ =>
    keeps_bind (keeps_reject fun _ => by decide) fun _ =>
      keeps_bind (keeps_reject fun _ => by decide) fun _ =>
        keeps_bind (keeps_reported fun _ => digitalSign_ne_succ) fun _ =>
          keeps_appendPayload _

theorem keeps_sendUpdateSessionkeyReq (lib : LbsLibraries Context) :
    Keeps unsent Reported (sendUpdateSessionkeyReq lib) :=
  keeps_bind (keeps_commonSerialize 1 1 0) fun _ =>
    keeps_bind keeps_get fun _ =>
      keeps_bind (keeps_appendPayload _) fun _ =>
        keeps_bind (keeps_digitalSignSerializeSha384 lib) fun _ =>
          keeps_headAndSend 0x2 0x4

theorem keeps_sendAuthenticationCreatDevId (lib : LbsLibraries Context) :
    Keeps unsent Reported (sendAuthenticationCreatDevId lib) :=
  keeps_bind (keeps_commonSerialize 1 1 0) fun _ =>
    keeps_bind (keeps_digitalSignSerializeSha384 lib) fun _ =>
      keeps_headAndSend 0x2 0x7

theorem keeps_encryptRandom (lib : LbsLibraries Context) (masterKey : Bytes)
    (random : UInt8) :
    Keeps unsent Reported (encryptRandom lib masterKey random) :=
  keeps_reported fun _ => aesCbc128EncPadding_ne_succ

theorem keeps_refreshsessionkeyISerialize (lib : LbsLibraries Context) :
    Keeps unsent Reported (refreshsessionkeyISerialize lib) :=
  keeps_bind keeps_get fun _ =>
    keeps_bind (keeps_appendPayload _) fun _ =>
      keeps_bind (keeps_appendPayload _) fun _ =>
        keeps_bind (keeps_encryptRandom lib _ _) fun _ =>
          keeps_appendPayload _

theorem keeps_sendRefreshsessionkeyI (lib : LbsLibraries Context) :
    Keeps unsent Reported (sendRefreshsessionkeyI lib) :=
  keeps_bind (keeps_commonSerialize 1 1 0) fun _ =>
    keeps_bind (keeps_refreshsessionkeyISerialize lib) fun _ =>
      keeps_headAndSend 0 0x7

theorem keeps_sendRefreshsessionkeyIII (lib : LbsLibraries Context) :
    Keeps unsent Reported (sendRefreshsessionkeyIII lib) :=
  keeps_bind (keeps_commonSerialize 1 1 0) fun _ =>
    keeps_bind keeps_get fun _ =>
      keeps_bind (keeps_encryptRandom lib _ _) fun _ =>
        keeps_bind (keeps_appendPayload _) fun _ =>
          keeps_headAndSend 0 0x9

theorem keeps_cryptoDataReqDasSerialize (lib : LbsLibraries Context) :
    Keeps unsent Reported (cryptoDataReqDasSerialize lib) :=
  keeps_bind keeps_get fun _ =>
    keeps_bind (keeps_required (by decide) _) fun _ =>
      keeps_bind (keeps_reported fun _ => aesCbc128EncPadding_ne_succ)
        fun _ => keeps_appendPayload _

theorem keeps_sendCryptoDataReq (lib : LbsLibraries Context) :
    Keeps unsent Reported (sendCryptoDataReq lib) :=
  keeps_bind (keeps_commonSerialize 1 1 0) fun _ =>
    keeps_bind (keeps_cryptoDataReqDasSerialize lib) fun _ =>
      keeps_headAndSend 0 0xA

/-! ## The first message of an authentication -/

theorem generatePublicKey_ne_succ
    {lib : LbsLibraries Context} {ctxClient : Context}
    {error : MkernelInternalError}
    (herror : generatePublicKey lib ctxClient = .error error) :
    error ≠ .succ := by
  unfold generatePublicKey at herror
  split at herror
  · cases herror
    decide
  · split at herror
    · cases herror
      decide
    · cases herror

theorem keeps_authenticationISerialize :
    Keeps (@unsent Context) Reported
      authenticationISerialize :=
  keeps_bind keeps_get fun _ => keeps_appendPayload _

theorem keeps_aes128EncryptPubkey (lib : LbsLibraries Context)
    (pubkey : Bytes) :
    Keeps unsent Reported (aes128EncryptPubkey lib pubkey) :=
  keeps_bind (keeps_reject fun _ => by decide) fun _ =>
    keeps_bind keeps_get fun _ =>
      keeps_reported fun _ => aesCbc128EncPadding_ne_succ

/-- The message after the public key has been made. -/
theorem keeps_encryptAndSend (lib : LbsLibraries Context) (pubkey : Bytes) :
    Keeps unsent Reported (do
      let encryptData ← aes128EncryptPubkey lib pubkey
      appendPayload encryptData
      headerSerialize 0x1
      sendLbsMsg) :=
  keeps_bind (keeps_aes128EncryptPubkey lib pubkey) fun _ =>
    keeps_bind (keeps_appendPayload _) fun _ =>
      keeps_bind (keeps_serializeHead 0x2 0x1) fun _ => keeps_sendLbsMsg

theorem keeps_sendAuthenticationI (lib : LbsLibraries Context) :
    Keeps installed Reported (sendAuthenticationI lib) := by
  apply keeps_bind (keeps_installed (keeps_commonSerialize 1 2 0))
  intro _
  apply keeps_bind (keeps_installed keeps_authenticationISerialize)
  intro _
  apply keeps_bind keeps_get
  intro session
  apply keeps_bind (keeps_reported fun _ => generatePublicKey_ne_succ)
  rintro ⟨pubkey, ctxClient⟩
  dsimp only
  apply keeps_bind
  · exact keeps_modify fun _ => rfl
  · intro _
    exact keeps_installed (keeps_encryptAndSend lib pubkey)

theorem unsent_of_sendAuthenticationI
    {lib : LbsLibraries Context} {session reached : LbsSession Context}
    (hok : sendAuthenticationI lib session = .ok () reached) :
    ∃ pubkey, generatePublicKey lib session.ctxClient =
        .ok (pubkey, reached.ctxClient) ∧
      unsent reached =
        { unsent session with ctxClient := reached.ctxClient } := by
  rw [sendAuthenticationI, bind_ok_iff] at hok
  obtain ⟨_, common, hcommon, hok⟩ := hok
  rw [bind_ok_iff] at hok
  obtain ⟨_, serialized, hserialized, hok⟩ := hok
  rw [bind_ok_iff] at hok
  obtain ⟨_, _, hget, hok⟩ := hok
  obtain ⟨rfl, rfl⟩ := get_ok_iff.mp hget
  rw [bind_ok_iff] at hok
  obtain ⟨⟨pubkey, ctxClient⟩, _, hpublic, hok⟩ := hok
  obtain ⟨hgenerated, rfl⟩ := reported_ok_iff.mp hpublic
  rw [bind_ok_iff] at hok
  obtain ⟨_, _, hmodify, hok⟩ := hok
  have hmodified := modify_ok_iff.mp hmodify
  have hsent := (keeps_encryptAndSend lib pubkey).of_ok hok
  have hbefore : unsent serialized = unsent session :=
    (keeps_authenticationISerialize.of_ok hserialized).trans
      ((keeps_commonSerialize 1 2 0).of_ok hcommon)
  have hctx : (unsent serialized).ctxClient = (unsent session).ctxClient := by
    rw [hbefore]
  change serialized.ctxClient = session.ctxClient at hctx
  have hmade : (unsent reached).ctxClient = ctxClient := by
    rw [hsent, ← hmodified]
    rfl
  change reached.ctxClient = ctxClient at hmade
  refine ⟨pubkey, ?_, ?_⟩
  · rw [← hctx, hmade]
    exact hgenerated
  · rw [hsent, ← hmodified, hmade, ← hbefore]
    rfl

/-! ## The waiting functions -/

theorem keeps_modifyAffair (change : LbsAffair → LbsAffair) :
    Keeps (@installed Context) Reported
      (modifyAffair change) :=
  keeps_modify fun _ => rfl

theorem keeps_netWorkRead (size : ℕ) :
    Keeps (@installed Context) Reported (netWorkRead size) :=
  keeps_bind (keeps_installed keeps_nextOutcome) fun _ =>
    keeps_bind (keeps_reject id) fun _ =>
      keeps_bind keeps_get fun _ =>
        keeps_bind (keeps_reject fun _ => by decide) fun _ =>
          keeps_bind (keeps_modify fun _ => rfl) fun _ => keeps_pure _

theorem keeps_netWorkReadByte :
    Keeps (@installed Context) Reported netWorkReadByte :=
  keeps_bind (keeps_netWorkRead 1) fun _ => keeps_pure _

theorem keeps_readRemainLen (fuel remainMult remainLen : ℕ) :
    Keeps (@installed Context) Reported
      (readRemainLen fuel remainMult remainLen) := by
  induction fuel generalizing remainMult remainLen with
  | zero => exact keeps_throw (by decide)
  | succ fuel ih =>
      apply keeps_bind keeps_netWorkReadByte
      intro byte
      by_cases hlast : byte.toNat < 0x80
      · rw [if_pos hlast]
        exact keeps_pure _
      · rw [if_neg hlast]
        exact ih _ _

theorem keeps_waitAssignResponse :
    Keeps (@installed Context) Reported waitAssignResponse :=
  keeps_bind keeps_netWorkReadByte fun _ =>
    keeps_bind keeps_get fun _ =>
      keeps_bind (keeps_readRemainLen _ _ _) fun _ =>
        keeps_bind (keeps_reject fun _ => by decide) fun _ =>
          keeps_bind (keeps_netWorkRead _) fun _ =>
            keeps_bind (keeps_modifyAffair _) fun _ => keeps_pure _

/-- A response is taken under the command that is waited for. -/
theorem keeps_wait (cmd : ℕ) {parse : ℕ → LbsStep Context Value}
    (hparse : ∀ remainLen, Keeps installed Reported (parse remainLen)) :
    Keeps installed Reported (do
      let (revCmd, remainLen) ← waitAssignResponse
      reject (revCmd ≠ cmd) (.code .netReadErrorRequest)
      parse remainLen) :=
  keeps_bind keeps_waitAssignResponse fun response =>
    keeps_bind (keeps_reject fun _ => by decide) fun _ =>
      hparse response.2

theorem keeps_takePayloadByte :
    Keeps (@installed Context) Reported takePayloadByte :=
  keeps_bind keeps_get fun _ =>
    keeps_bind (keeps_modifyAffair _) fun _ => keeps_pure _

theorem keeps_takeResultCode :
    Keeps (@installed Context) Reported takeResultCode :=
  keeps_bind (keeps_modifyAffair _) fun _ =>
    keeps_bind keeps_takePayloadByte fun _ =>
      keeps_reject fun _ => by simp [Reported]

theorem generateMasterKey_ne_succ
    {lib : LbsLibraries Context} {ctxClient : Context} {peerPubkey : Bytes}
    {error : MkernelInternalError}
    (herror : generateMasterKey lib ctxClient peerPubkey = .error error) :
    error ≠ .succ := by
  unfold generateMasterKey at herror
  split at herror
  · cases herror
    decide
  · split at herror
    · cases herror
      decide
    · split at herror
      · cases herror
        decide
      · cases herror

theorem keeps_aes128DecryptPeerPubkey (lib : LbsLibraries Context)
    (remainLen : ℕ) :
    Keeps installed Reported (aes128DecryptPeerPubkey lib remainLen) :=
  keeps_bind (keeps_reject fun _ => by decide) fun _ =>
    keeps_bind keeps_get fun _ =>
      keeps_bind (keeps_reported fun _ => aesCbc128DecPadding_ne_succ)
        fun _ => keeps_pure _

theorem keeps_parseAuthenticationII (lib : LbsLibraries Context)
    (remainLen : ℕ) :
    Keeps installed Reported (parseAuthenticationII lib remainLen) :=
  keeps_bind keeps_takeResultCode fun _ =>
    keeps_bind (keeps_aes128DecryptPeerPubkey lib remainLen) fun _ =>
      keeps_bind keeps_get fun _ =>
        keeps_bind (keeps_reported fun _ => generateMasterKey_ne_succ)
          fun _ => keeps_modifyAffair _

theorem keeps_digitalSignSerializeAndCheckSha384
    (lib : LbsLibraries Context) (targetSign : Bytes) (targetSignLen : ℕ)
    (signSrc masterKey : Bytes) :
    Keeps installed Reported
      (digitalSignSerializeAndCheckSha384 lib targetSign targetSignLen
        signSrc masterKey) :=
  keeps_bind (keeps_reject fun _ => by decide) fun _ =>
    keeps_bind (keeps_reject fun _ => by decide) fun _ =>
      keeps_bind (keeps_reported fun _ => digitalSign_ne_succ) fun _ =>
        keeps_reject fun _ => by decide

theorem keeps_parseAuthenticationCreateDevId (lib : LbsLibraries Context)
    (remainLen : ℕ) :
    Keeps installed Reported
      (parseAuthenticationCreateDevId lib remainLen) :=
  keeps_bind keeps_takeResultCode fun _ =>
    keeps_bind keeps_takePayloadByte fun _ =>
    keeps_bind (keeps_reject fun _ => by decide) fun _ =>
    keeps_bind keeps_get fun _ =>
    keeps_bind (keeps_reported fun _ => aesCbc128DecPadding_ne_succ) fun _ =>
    keeps_bind (keeps_reject fun _ => by decide) fun _ =>
    keeps_bind (keeps_modifyAffair _) fun _ =>
    keeps_bind (keeps_modifyAffair _) fun _ =>
    keeps_bind keeps_takePayloadByte fun _ =>
    keeps_bind (keeps_reject fun _ => by decide) fun _ =>
    keeps_bind keeps_get fun _ =>
    keeps_bind (keeps_reported fun _ => aesCbc128DecPadding_ne_succ) fun _ =>
    keeps_bind (keeps_reject fun _ => by decide) fun _ =>
    keeps_bind (keeps_modifyAffair _) fun _ =>
    keeps_bind (keeps_modifyAffair _) fun _ =>
    keeps_bind keeps_get fun _ =>
      keeps_digitalSignSerializeAndCheckSha384 lib _ _ _ _

theorem keeps_parseRefreshsessionkeyII (lib : LbsLibraries Context)
    (remainLen : ℕ) :
    Keeps installed Reported (parseRefreshsessionkeyII lib remainLen) :=
  keeps_bind keeps_takeResultCode fun _ =>
    keeps_bind keeps_get fun _ =>
    keeps_bind (keeps_reject fun _ => by decide) fun _ =>
    keeps_bind (keeps_reported fun _ => aesCbc128DecPadding_ne_succ) fun _ =>
    keeps_bind (keeps_modifyAffair _) fun _ =>
    keeps_bind (keeps_reject fun _ => by decide) fun _ =>
      keeps_modifyAffair _

theorem keeps_decryptCryptoData (lib : LbsLibraries Context)
    (remainLen : ℕ) :
    Keeps installed Reported (decryptCryptoData lib remainLen) :=
  keeps_bind keeps_takeResultCode fun _ =>
    keeps_bind keeps_get fun _ =>
      keeps_bind (keeps_reported fun _ => aesCbc128DecPadding_ne_succ)
        fun _ => keeps_pure _

theorem keeps_parseDasServerInfo (lib : LbsLibraries Context)
    (text : CString) :
    Keeps installed (· ≠ .code .succ) (parseDasServerInfo lib text) := by
  intro session
  have hparse :=
    keeps_jsonParseDasServerInfo (lib.parse text) DasInfo.zero
  unfold parseDasServerInfo
  cases hrun : jsonParseDasServerInfo (lib.parse text) DasInfo.zero with
  | ok _ info => rfl
  | error error info =>
      rw [hrun] at hparse
      exact ⟨rfl, hparse.2⟩

end EziotSdk
