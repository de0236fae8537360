import EziotSdk.LbsExits
import EziotSdk.LbsResponses

/-!
# The handshake behind a successful exchange

An exchange is followed from one message to the next by what `unsent` shows of
the session.  A successful one has read its responses in order off what the
server sent, and the keys in its affair are the ones that they determine.
-/

namespace EziotSdk

open ErrorState

variable {Context : Type}

/-! ## One message after another -/

/-- A session of which everything but the sending side is known. -/
structure Shows (session shown : LbsSession Context) : Prop where
  eq : unsent session = shown

namespace Shows

variable {session reached shown : LbsSession Context}

theorem sent
    {Value : Type} {action : LbsStep Context Value} {value : Value}
    (hkeeps : Keeps unsent Reported action)
    (hshows : Shows session shown)
    (hok : action session = .ok value reached) : Shows reached shown :=
  ⟨(hkeeps.of_ok hok).trans hshows.eq⟩

theorem cleared
    (hshows : Shows session shown)
    (hok : clearLbsAffairBuf session = .ok () reached) :
    Shows reached { shown with
      affair := { shown.affair with
        globalInPacket := LbsInPacket.zero } } := by
  have hreached := modify_ok_iff.mp hok
  rw [← hreached, ← hshows.eq]
  exact ⟨rfl⟩

theorem keyExchanged
    {lib : LbsLibraries Context}
    (hshows : Shows session shown)
    (hok : sendAuthenticationI lib session = .ok () reached) :
    ∃ pubkey ctxClient,
      generatePublicKey lib shown.ctxClient = .ok (pubkey, ctxClient) ∧
      Shows reached { shown with ctxClient := ctxClient } := by
  obtain ⟨pubkey, hpublic, hunsent⟩ := unsent_of_sendAuthenticationI hok
  rw [← hshows.eq]
  exact ⟨pubkey, reached.ctxClient, hpublic, ⟨hunsent⟩⟩

/-- What every waiting function starts with: a frame under the command that
is waited for, whose body is in the receive buffer. -/
theorem received
    {Value : Type} {cmd : ℕ} {parse : ℕ → LbsStep Context Value}
    {value : Value}
    (hshows : Shows session shown)
    (hzero : shown.affair.globalInPacket = LbsInPacket.zero)
    (hok : (do
      let (revCmd, remainLen) ← waitAssignResponse
      reject (revCmd ≠ cmd) (.code .netReadErrorRequest)
      parse remainLen) session = .ok value reached) :
    ∃ (frame : LbsFrame) (middle : LbsSession Context),
      frame.cmd = cmd ∧ frame.body.length ≤ ezdevSdkRecvBufMax ∧
      session.network.incoming =
        frame.bytes ++ middle.network.incoming ∧
      middle = { session with
        affair := session.affair.readUpTo (receiveBuffer frame.body) 0
        network := middle.network } ∧
      parse frame.body.length middle = .ok value reached := by
  rw [bind_ok_iff] at hok
  obtain ⟨⟨revCmd, remainLen⟩, middle, hwait, hparse⟩ := hok
  obtain ⟨frame, hcmd, hlength, hlimit, hincoming, hmiddle⟩ :=
    frame_of_waitAssignResponse hwait
  dsimp only at hparse
  rw [bind_ok_iff] at hparse
  obtain ⟨_, _, hreject, hparse⟩ := hparse
  obtain ⟨hrevCmd, rfl⟩ := reject_ok_iff.mp hreject
  rw [not_not] at hrevCmd
  have hinPacket : session.affair.globalInPacket = LbsInPacket.zero := by
    rw [← hshows.eq] at hzero
    exact hzero
  have hreceive : session.affair.receive frame.body =
      session.affair.readUpTo (receiveBuffer frame.body) 0 := by
    simp only [LbsAffair.receive, LbsAffair.readUpTo, hinPacket]
    rfl
  rw [hreceive] at hmiddle
  rw [← hlength] at hlimit hparse
  exact ⟨frame, middle, hcmd.trans hrevCmd, hlimit, hincoming, hmiddle,
    hparse⟩

theorem authenticated
    {lib : LbsLibraries Context}
    (hshows : Shows session shown)
    (hzero : shown.affair.globalInPacket = LbsInPacket.zero)
    (hok : waitAuthenticationII lib session = .ok () reached) :
    ∃ (frame : LbsFrame) (rest masterKey : Bytes),
      frame.cmd = 0x2 ∧ shown.network.incoming = frame.bytes ++ rest ∧
      AuthenticationAnswer lib shown.affair.shareKey shown.ctxClient
        frame.body masterKey ∧
      Shows reached { shown with
        affair := { shown.affair with masterKey := masterKey }.readUpTo
          (receiveBuffer frame.body) 4
        network := ⟨[], [], rest, []⟩ } := by
  obtain ⟨frame, middle, hcmd, _, hincoming, hmiddle, hparse⟩ :=
    hshows.received hzero hok
  have haffair : middle.affair =
      session.affair.readUpTo (receiveBuffer frame.body) 0 := by
    rw [hmiddle]
  have hctx : middle.ctxClient = session.ctxClient := by
    rw [hmiddle]
  obtain ⟨masterKey, hanswer, hreached⟩ :=
    authenticationAnswer_of_parse haffair hparse
  rw [hctx] at hanswer
  have hshown := hshows.eq
  subst hshown
  refine ⟨frame, middle.network.incoming, masterKey, hcmd, hincoming,
    hanswer, ⟨?_⟩⟩
  rw [hreached, hmiddle]
  rfl

theorem sessionKeyed
    {lib : LbsLibraries Context} {cmd : ℕ}
    (hshows : Shows session shown)
    (hzero : shown.affair.globalInPacket = LbsInPacket.zero)
    (hok : waitSessionkeyRsp lib cmd session = .ok () reached) :
    ∃ (frame : LbsFrame) (rest devId sessionKey : Bytes),
      frame.cmd = cmd ∧ shown.network.incoming = frame.bytes ++ rest ∧
      SessionkeyAnswer lib shown.affair.devSubserial shown.affair.masterKey
        frame.body devId sessionKey ∧
      Shows reached { shown with
        affair := { shown.affair with
          devId := devId, sessionKey := sessionKey }.readUpTo
            (receiveBuffer frame.body) 86
        network := ⟨[], [], rest, []⟩ } := by
  obtain ⟨frame, middle, hcmd, hlimit, hincoming, hmiddle, hparse⟩ :=
    hshows.received hzero hok
  have haffair : middle.affair =
      session.affair.readUpTo (receiveBuffer frame.body) 0 := by
    rw [hmiddle]
  obtain ⟨devId, sessionKey, hanswer, hreached⟩ :=
    sessionkeyAnswer_of_parse haffair hlimit hparse
  have hshown := hshows.eq
  subst hshown
  refine ⟨frame, middle.network.incoming, devId, sessionKey, hcmd,
    hincoming, hanswer, ⟨?_⟩⟩
  rw [hreached, hmiddle]
  rfl

theorem refreshed
    {lib : LbsLibraries Context}
    (hshows : Shows session shown)
    (hzero : shown.affair.globalInPacket = LbsInPacket.zero)
    (hok : waitRefreshsessionkeyII lib session = .ok () reached) :
    ∃ (frame : LbsFrame) (rest : Bytes) (plain : AesPlain)
      (sessionKey : Bytes),
      frame.cmd = 0x8 ∧ shown.network.incoming = frame.bytes ++ rest ∧
      RefreshAnswer lib shown.affair.masterKey shown.affair.random1
        frame.body plain sessionKey ∧
      Shows reached { shown with
        affair := { shown.affair with
          random2 := plain.written.getD 1 0
          sessionKey := sessionKey }.readUpTo (receiveBuffer frame.body) 36
        network := ⟨[], [], rest, []⟩ } := by
  obtain ⟨frame, middle, hcmd, _, hincoming, hmiddle, hparse⟩ :=
    hshows.received hzero hok
  have haffair : middle.affair =
      session.affair.readUpTo (receiveBuffer frame.body) 0 := by
    rw [hmiddle]
  obtain ⟨plain, sessionKey, hanswer, hreached⟩ :=
    refreshAnswer_of_parse haffair hparse
  have hshown := hshows.eq
  subst hshown
  refine ⟨frame, middle.network.incoming, plain, sessionKey, hcmd,
    hincoming, hanswer, ⟨?_⟩⟩
  rw [hreached, hmiddle]
  rfl

end Shows

/-- `wait_crypto_data_rsp_das` up to the decrypted text. -/
def receiveDasText (lib : LbsLibraries Context) :
    LbsStep Context CString := do
  let (revCmd, remainLen) ← waitAssignResponse
  reject (revCmd ≠ 0xB) (.code .netReadErrorRequest)
  decryptCryptoData lib remainLen

theorem waitCryptoDataRspDas_eq (lib : LbsLibraries Context) :
    waitCryptoDataRspDas lib =
      receiveDasText lib >>= parseDasServerInfo lib := by
  simp [waitCryptoDataRspDas, receiveDasText, parseCryptoDataRspDas]

theorem keeps_receiveDasText (lib : LbsLibraries Context) :
    Keeps installed Reported (receiveDasText lib) :=
  keeps_wait 0xB (keeps_decryptCryptoData lib)

theorem Shows.dasAnswered
    {session reached shown : LbsSession Context}
    {lib : LbsLibraries Context} {text : CString}
    (hshows : Shows session shown)
    (hzero : shown.affair.globalInPacket = LbsInPacket.zero)
    (hok : receiveDasText lib session = .ok text reached) :
    ∃ (frame : LbsFrame) (rest : Bytes),
      frame.cmd = 0xB ∧ shown.network.incoming = frame.bytes ++ rest ∧
      CryptoDataAnswer lib shown.affair.sessionKey frame.body text ∧
      Shows reached { shown with
        affair := shown.affair.readUpTo (receiveBuffer frame.body) 4
        network := ⟨[], [], rest, []⟩ } := by
  obtain ⟨frame, middle, hcmd, hlimit, hincoming, hmiddle, hparse⟩ :=
    hshows.received hzero hok
  have haffair : middle.affair =
      session.affair.readUpTo (receiveBuffer frame.body) 0 := by
    rw [hmiddle]
  obtain ⟨hanswer, hreached⟩ :=
    cryptoDataAnswer_of_decrypt haffair hlimit hparse
  have hshown := hshows.eq
  subst hshown
  refine ⟨frame, middle.network.incoming, hcmd, hincoming, hanswer, ⟨?_⟩⟩
  rw [hreached, hmiddle]
  rfl

end EziotSdk
