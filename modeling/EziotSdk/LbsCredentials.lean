import EziotSdk.LbsHandshake

/-!
# Atomic installation and authentic session keys

The three exchanges of the transport as one family.  Each ends by installing
the keys of its affair and the server information of its last response; an
exchange that fails before leaves the kernel and the saved values alone.
-/

namespace EziotSdk

open ErrorState

variable {Context : Type}

/-! ## What a handshake establishes -/

/-- The handshake of an authentication: three responses in the order in which
the server sent them, and the keys and the text that they determine. -/
structure AuthExchange (lib : LbsLibraries Context)
    (session : LbsSession Context) (nUpper : Bool) (responseCmd : ℕ)
    (first second third : LbsFrame) (devId masterKey sessionKey : Bytes)
    (text : CString) : Prop where
  received : first.bytes ++ second.bytes ++ third.bytes <+:
    session.network.incoming
  firstCmd : first.cmd = 0x2
  secondCmd : second.cmd = responseCmd
  thirdCmd : third.cmd = 0xB
  authentication : ∃ pubkey ctxClient,
    generatePublicKey lib session.ctxClient = .ok (pubkey, ctxClient) ∧
      AuthenticationAnswer lib
        (generateSharekey lib session.kernel.devInfo nUpper) ctxClient
        first.body masterKey
  sessionkey : SessionkeyAnswer lib session.kernel.devInfo.devSubserial
    masterKey second.body devId sessionKey
  cryptoData : CryptoDataAnswer lib sessionKey third.body text

/-- The handshake of a refresh, under the keys that the kernel has. -/
structure RefreshExchange (lib : LbsLibraries Context) (rand : ℕ → ℕ)
    (session : LbsSession Context) (first second : LbsFrame)
    (plain : AesPlain) (devId masterKey sessionKey : Bytes)
    (text : CString) : Prop where
  received : first.bytes ++ second.bytes <+: session.network.incoming
  firstCmd : first.cmd = 0x8
  secondCmd : second.cmd = 0xB
  devId : devId = session.kernel.devId
  masterKey : masterKey = session.kernel.masterKey
  refresh : RefreshAnswer lib session.kernel.masterKey
    (UInt8.ofNat (rand 0 % 256)) first.body plain sessionKey
  cryptoData : CryptoDataAnswer lib sessionKey second.body text

/-! ## A successful exchange is a handshake -/

theorem authExchange_of_ok
    {lib : LbsLibraries Context} {rand : ℕ → ℕ}
    {session reached : LbsSession Context} {nUpper : Bool}
    {request : LbsStep Context Unit} {responseCmd : ℕ} {text : CString}
    (hrequest : Keeps unsent Reported request)
    (hok : (do
      initLbsAffair lib rand nUpper
      lbsConnect
      sendAuthenticationI lib
      waitAuthenticationII lib
      clearLbsAffairBuf
      request
      waitSessionkeyRsp lib responseCmd
      clearLbsAffairBuf
      sendCryptoDataReq lib
      receiveDasText lib) session = .ok text reached) :
    ∃ first second third,
      AuthExchange lib session nUpper responseCmd first second third
        reached.affair.devId reached.affair.masterKey
        reached.affair.sessionKey text := by
  simp only [bind_ok_iff] at hok
  obtain ⟨_, started, hinit, _, _, hconnect, _, _, hsendI, _, _, hwaitII, _,
    _, hclear, _, _, hsendKey, _, _, hwaitKey, _, _, hclearKey, _, _,
    hsendDas, hwaitDas⟩ := hok
  have hstarted : Shows started (unsent started) := ⟨rfl⟩
  have hconnected := hstarted.sent keeps_lbsConnect hconnect
  obtain ⟨pubkey, ctxClient, hpublic, hkeyed⟩ :=
    hconnected.keyExchanged hsendI
  simp only [initLbsAffair, modifyAffair, bind_ok_iff, get_ok_iff,
    modify_ok_iff] at hinit
  obtain ⟨_, _, ⟨rfl, rfl⟩, rfl⟩ := hinit
  obtain ⟨first, rest, masterKey, hfirst, hincoming, hauthentication,
    hauthenticated⟩ := hkeyed.authenticated rfl hwaitII
  have hcleared := hauthenticated.cleared hclear
  have hrequested := hcleared.sent hrequest hsendKey
  obtain ⟨second, restKey, devId, sessionKey, hsecond, hincomingKey,
    hsessionkey, hsessionKeyed⟩ := hrequested.sessionKeyed rfl hwaitKey
  have hclearedKey := hsessionKeyed.cleared hclearKey
  have hdasRequested := hclearedKey.sent (keeps_sendCryptoDataReq lib) hsendDas
  obtain ⟨third, restDas, hthird, hincomingDas, hcryptoData, hshows⟩ :=
    hdasRequested.dasAnswered rfl hwaitDas
  have hdevId : reached.affair.devId = devId :=
    congrArg (fun shown : LbsSession Context => shown.affair.devId) hshows.eq
  have hmasterKey : reached.affair.masterKey = masterKey :=
    congrArg (fun shown : LbsSession Context => shown.affair.masterKey)
      hshows.eq
  have hsessionKey : reached.affair.sessionKey = sessionKey :=
    congrArg (fun shown : LbsSession Context => shown.affair.sessionKey)
      hshows.eq
  rw [hdevId, hmasterKey, hsessionKey]
  refine ⟨first, second, third, ?_⟩
  exact {
    received := by
      refine ⟨restDas, ?_⟩
      change session.network.incoming = _ at hincoming
      change rest = _ at hincomingKey
      change restKey = _ at hincomingDas
      rw [hincoming, hincomingKey, hincomingDas]
      simp only [List.append_assoc]
    firstCmd := hfirst
    secondCmd := hsecond
    thirdCmd := hthird
    authentication := ⟨pubkey, ctxClient, hpublic, hauthentication⟩
    sessionkey := hsessionkey
    cryptoData := hcryptoData }

theorem refreshExchange_of_ok
    {lib : LbsLibraries Context} {rand : ℕ → ℕ}
    {session reached : LbsSession Context} {text : CString}
    (hok : (do
      initLbsAffair lib rand true
      lbsConnect
      sendRefreshsessionkeyI lib
      waitRefreshsessionkeyII lib
      clearLbsAffairBuf
      sendRefreshsessionkeyIII lib
      clearLbsAffairBuf
      sendCryptoDataReq lib
      receiveDasText lib) session = .ok text reached) :
    ∃ first second plain,
      RefreshExchange lib rand session first second plain
        reached.affair.devId reached.affair.masterKey
        reached.affair.sessionKey text := by
  simp only [bind_ok_iff] at hok
  obtain ⟨_, started, hinit, _, _, hconnect, _, _, hsendI, _, _, hwaitII, _,
    _, hclear, _, _, hsendIII, _, _, hclearIII, _, _, hsendDas,
    hwaitDas⟩ := hok
  have hstarted : Shows started (unsent started) := ⟨rfl⟩
  have hconnected := hstarted.sent keeps_lbsConnect hconnect
  have hasked := hconnected.sent (keeps_sendRefreshsessionkeyI lib) hsendI
  simp only [initLbsAffair, modifyAffair, bind_ok_iff, get_ok_iff,
    modify_ok_iff] at hinit
  obtain ⟨_, _, ⟨rfl, rfl⟩, rfl⟩ := hinit
  obtain ⟨first, rest, plain, sessionKey, hfirst, hincoming, hrefresh,
    hrefreshed⟩ := hasked.refreshed rfl hwaitII
  have hcleared := hrefreshed.cleared hclear
  have hconfirmed :=
    hcleared.sent (keeps_sendRefreshsessionkeyIII lib) hsendIII
  have hclearedIII := hconfirmed.cleared hclearIII
  have hdasRequested := hclearedIII.sent (keeps_sendCryptoDataReq lib) hsendDas
  obtain ⟨second, restDas, hsecond, hincomingDas, hcryptoData, hshows⟩ :=
    hdasRequested.dasAnswered rfl hwaitDas
  have hsessionKey : reached.affair.sessionKey = sessionKey :=
    congrArg (fun shown : LbsSession Context => shown.affair.sessionKey)
      hshows.eq
  rw [hsessionKey]
  refine ⟨first, second, plain, ?_⟩
  exact {
    received := by
      refine ⟨restDas, ?_⟩
      change session.network.incoming = _ at hincoming
      change rest = _ at hincomingDas
      rw [hincoming, hincomingDas]
      simp only [List.append_assoc]
    firstCmd := hfirst
    secondCmd := hsecond
    devId :=
      congrArg (fun shown : LbsSession Context => shown.affair.devId)
        hshows.eq
    masterKey :=
      congrArg (fun shown : LbsSession Context => shown.affair.masterKey)
        hshows.eq
    refresh := hrefresh
    cryptoData := hcryptoData }

namespace LbsFlow

/-- The keys and the text that come out of a flow's messages. -/
def Exchanges (flow : LbsFlow) (lib : LbsLibraries Context)
    (rand : ℕ → ℕ) (session : LbsSession Context)
    (devId masterKey sessionKey : Bytes) (text : CString) : Prop :=
  match flow with
  | .withAuth nUpper => ∃ first second third,
      AuthExchange lib session nUpper 0x6 first second third devId masterKey
        sessionKey text
  | .createdevidWithAuth nUpper => ∃ first second third,
      AuthExchange lib session nUpper 0x8 first second third devId masterKey
        sessionKey text
  | .refresh => ∃ first second plain,
      RefreshExchange lib rand session first second plain devId masterKey
        sessionKey text

/-- The credentials of one handshake. -/
def Handshake (flow : LbsFlow) (lib : LbsLibraries Context)
    (rand : ℕ → ℕ) (session : LbsSession Context)
    (credentials : LbsCredentials) : Prop :=
  ∃ text, flow.Exchanges lib rand session credentials.devId
      credentials.masterKey credentials.sessionKey text ∧
    jsonParseDasServerInfo (lib.parse text) DasInfo.zero =
      .ok () credentials.dasInfo

/-! ## The flows -/

/-- A flow up to the text of its last response. -/
def exchange (lib : LbsLibraries Context) (rand : ℕ → ℕ) :
    LbsFlow → LbsStep Context CString
  | .withAuth nUpper => do
      initLbsAffair lib rand nUpper
      lbsConnect
      sendAuthenticationI lib
      waitAuthenticationII lib
      clearLbsAffairBuf
      sendUpdateSessionkeyReq lib
      waitUpdateSessionkeyRsp lib
      clearLbsAffairBuf
      sendCryptoDataReq lib
      receiveDasText lib
  | .createdevidWithAuth nUpper => do
      initLbsAffair lib rand nUpper
      lbsConnect
      sendAuthenticationI lib
      waitAuthenticationII lib
      clearLbsAffairBuf
      sendAuthenticationCreatDevId lib
      waitAuthenticationCreatDevId lib
      clearLbsAffairBuf
      sendCryptoDataReq lib
      receiveDasText lib
  | .refresh => do
      initLbsAffair lib rand true
      lbsConnect
      sendRefreshsessionkeyI lib
      waitRefreshsessionkeyII lib
      clearLbsAffairBuf
      sendRefreshsessionkeyIII lib
      clearLbsAffairBuf
      sendCryptoDataReq lib
      receiveDasText lib

def saveKeys : LbsFlow → LbsStep Context Unit
  | .refresh => copyKeys
  | _ => saveKeyValue

/-- The values that a flow saves, over the ones saved before. -/
def saved (flow : LbsFlow) (credentials : LbsCredentials)
    (keyValues : SdkKeyvalueType → Bytes) : SdkKeyvalueType → Bytes :=
  match flow with
  | .refresh => keyValues
  | _ => fun type =>
      match type with
      | .devid => credentials.devId
      | .masterkey => credentials.masterKey

theorem run_eq (flow : LbsFlow) (lib : LbsLibraries Context)
    (rand : ℕ → ℕ) :
    flow.run lib rand = finiLbsAffair (do
      let text ← flow.exchange lib rand
      let dasInfo ← parseDasServerInfo lib text
      flow.saveKeys
      saveDasInfo dasInfo) := by
  cases flow
  all_goals
    simp only [run, exchange, saveKeys, lbsRedirectWithAuth,
      lbsRedirectCreatedevidWithAuth, lbsRedirect,
      waitCryptoDataRspDas_eq, bind_assoc]

theorem keeps_initLbsAffair (lib : LbsLibraries Context) (rand : ℕ → ℕ)
    (nUpper : Bool) :
    Keeps installed Reported (initLbsAffair lib rand nUpper) :=
  keeps_bind keeps_get fun _ => keeps_modifyAffair _

theorem keeps_exchange (flow : LbsFlow) (lib : LbsLibraries Context)
    (rand : ℕ → ℕ) :
    Keeps installed Reported (flow.exchange lib rand) := by
  have hconnect := keeps_installed (@keeps_lbsConnect Context)
  have hrequest := keeps_installed (keeps_sendCryptoDataReq lib)
  have hdas := keeps_receiveDasText lib
  cases flow with
  | withAuth nUpper =>
      exact keeps_bind (keeps_initLbsAffair lib rand nUpper) fun _ =>
        keeps_bind hconnect fun _ =>
        keeps_bind (keeps_sendAuthenticationI lib) fun _ =>
        keeps_bind (keeps_wait 0x2 (keeps_parseAuthenticationII lib)) fun _ =>
        keeps_bind (keeps_modifyAffair _) fun _ =>
        keeps_bind (keeps_installed (keeps_sendUpdateSessionkeyReq lib))
          fun _ =>
        keeps_bind (keeps_wait 0x6 (keeps_parseAuthenticationCreateDevId lib))
          fun _ =>
        keeps_bind (keeps_modifyAffair _) fun _ =>
        keeps_bind hrequest fun _ => hdas
  | createdevidWithAuth nUpper =>
      exact keeps_bind (keeps_initLbsAffair lib rand nUpper) fun _ =>
        keeps_bind hconnect fun _ =>
        keeps_bind (keeps_sendAuthenticationI lib) fun _ =>
        keeps_bind (keeps_wait 0x2 (keeps_parseAuthenticationII lib)) fun _ =>
        keeps_bind (keeps_modifyAffair _) fun _ =>
        keeps_bind (keeps_installed (keeps_sendAuthenticationCreatDevId lib))
          fun _ =>
        keeps_bind (keeps_wait 0x8 (keeps_parseAuthenticationCreateDevId lib))
          fun _ =>
        keeps_bind (keeps_modifyAffair _) fun _ =>
        keeps_bind hrequest fun _ => hdas
  | refresh =>
      exact keeps_bind (keeps_initLbsAffair lib rand true) fun _ =>
        keeps_bind hconnect fun _ =>
        keeps_bind (keeps_installed (keeps_sendRefreshsessionkeyI lib))
          fun _ =>
        keeps_bind (keeps_wait 0x8 (keeps_parseRefreshsessionkeyII lib))
          fun _ =>
        keeps_bind (keeps_modifyAffair _) fun _ =>
        keeps_bind (keeps_installed (keeps_sendRefreshsessionkeyIII lib))
          fun _ =>
        keeps_bind (keeps_modifyAffair _) fun _ =>
        keeps_bind hrequest fun _ => hdas

theorem exchanges_of_ok
    {flow : LbsFlow} {lib : LbsLibraries Context} {rand : ℕ → ℕ}
    {session reached : LbsSession Context} {text : CString}
    (hok : flow.exchange lib rand session = .ok text reached) :
    flow.Exchanges lib rand session reached.affair.devId
      reached.affair.masterKey reached.affair.sessionKey text := by
  cases flow with
  | withAuth nUpper =>
      exact authExchange_of_ok (keeps_sendUpdateSessionkeyReq lib) hok
  | createdevidWithAuth nUpper =>
      exact authExchange_of_ok (keeps_sendAuthenticationCreatDevId lib) hok
  | refresh => exact refreshExchange_of_ok hok

/-! ## The installation -/

/-- Nothing can stop the installation, and it installs the affair's keys. -/
theorem install_eq (flow : LbsFlow) (dasInfo : DasInfo)
    (session : LbsSession Context) :
    ∃ reached, (do
        flow.saveKeys
        saveDasInfo dasInfo) session = .ok () reached ∧
      installed reached =
        (⟨session.affair.devId, session.affair.masterKey,
            session.affair.sessionKey, dasInfo⟩,
          flow.saved ⟨session.affair.devId, session.affair.masterKey,
            session.affair.sessionKey, dasInfo⟩ session.keyValues) := by
  cases flow with
  | refresh => exact ⟨_, rfl, rfl⟩
  | withAuth nUpper =>
      refine ⟨_, rfl, Prod.ext rfl ?_⟩
      funext type
      cases type <;> rfl
  | createdevidWithAuth nUpper =>
      refine ⟨_, rfl, Prod.ext rfl ?_⟩
      funext type
      cases type <;> rfl

theorem ok_of_finiLbsAffair
    {exchange : LbsStep Context Unit} {session reached : LbsSession Context}
    (hok : finiLbsAffair exchange session = .ok () reached) :
    ∃ finished, exchange session = .ok () finished ∧
      installed reached = installed finished := by
  unfold finiLbsAffair at hok
  cases hrun : exchange session with
  | ok _ finished =>
      rw [hrun] at hok
      cases hok
      exact ⟨finished, rfl, rfl⟩
  | error abort finished =>
      rw [hrun] at hok
      cases abort with
      | code error => cases hok
      | nullDereference => cases hok

theorem error_of_finiLbsAffair
    {exchange : LbsStep Context Unit} {session reached : LbsSession Context}
    {abort : Abort}
    (herror : finiLbsAffair exchange session = .error abort reached) :
    ∃ finished, exchange session = .error abort finished ∧
      installed reached = installed finished := by
  unfold finiLbsAffair at herror
  cases hrun : exchange session with
  | ok _ finished =>
      rw [hrun] at herror
      cases herror
  | error raised finished =>
      rw [hrun] at herror
      cases raised with
      | code error =>
          cases herror
          exact ⟨finished, rfl, rfl⟩
      | nullDereference =>
          cases herror
          exact ⟨_, rfl, rfl⟩

/-- A run that returns has completed one handshake and installed it. -/
theorem handshake_of_ok
    {flow : LbsFlow} {lib : LbsLibraries Context} {rand : ℕ → ℕ}
    {session reached : LbsSession Context}
    (hok : flow.run lib rand session = .ok () reached) :
    ∃ credentials, flow.Handshake lib rand session credentials ∧
      installed reached =
        (credentials, flow.saved credentials session.keyValues) := by
  rw [run_eq] at hok
  obtain ⟨finished, hrun, hreached⟩ := ok_of_finiLbsAffair hok
  rw [bind_ok_iff] at hrun
  obtain ⟨text, middle, hexchange, hrun⟩ := hrun
  rw [bind_ok_iff] at hrun
  obtain ⟨dasInfo, parsed, hparse, hinstall⟩ := hrun
  have hdas : jsonParseDasServerInfo (lib.parse text) DasInfo.zero =
      .ok () dasInfo ∧ parsed = middle := by
    unfold parseDasServerInfo at hparse
    split at hparse
    · next hjson =>
        cases hparse
        exact ⟨hjson, rfl⟩
    · cases hparse
  obtain ⟨hjson, rfl⟩ := hdas
  obtain ⟨installedSession, hinstalls, hvalues⟩ :=
    flow.install_eq dasInfo parsed
  rw [hinstalls] at hinstall
  cases hinstall
  have hkept := (flow.keeps_exchange lib rand).of_ok hexchange
  have hsaved : parsed.keyValues = session.keyValues :=
    congrArg Prod.snd hkept
  rw [hsaved] at hvalues
  exact ⟨_, ⟨text, exchanges_of_ok hexchange, hjson⟩,
    hreached.trans hvalues⟩

/-- A run that ends early has installed and saved nothing. -/
theorem kept_of_error
    {flow : LbsFlow} {lib : LbsLibraries Context} {rand : ℕ → ℕ}
    {session reached : LbsSession Context} {abort : Abort}
    (herror : flow.run lib rand session = .error abort reached) :
    installed reached = installed session ∧ abort ≠ .code .succ := by
  rw [run_eq] at herror
  obtain ⟨finished, hrun, hreached⟩ := error_of_finiLbsAffair herror
  rw [hreached]
  rw [bind_error_iff] at hrun
  rcases hrun with hexchange | ⟨text, middle, hexchange, hrun⟩
  · obtain ⟨hkept, hreported⟩ :=
      (flow.keeps_exchange lib rand).of_error hexchange
    refine ⟨hkept, ?_⟩
    rintro rfl
    exact hreported rfl
  · have hkept := (flow.keeps_exchange lib rand).of_ok hexchange
    rw [← hkept]
    rw [bind_error_iff] at hrun
    rcases hrun with hparse | ⟨dasInfo, parsed, hparse, hinstall⟩
    · exact (keeps_parseDasServerInfo lib text).of_error hparse
    · obtain ⟨_, hinstalls, _⟩ := flow.install_eq dasInfo parsed
      rw [hinstalls] at hinstall
      cases hinstall

theorem parseDasServerInfo_eq_nullDereference_iff
    {lib : LbsLibraries Context} {text : CString}
    {session reached : LbsSession Context} :
    parseDasServerInfo lib text session = .error .nullDereference reached ↔
      session = reached ∧ ∃ document dasInfo,
        lib.parse text = some document ∧ Addressless document dasInfo := by
  constructor
  · intro herror
    unfold parseDasServerInfo at herror
    split at herror
    · cases herror
    · next hrun =>
        cases herror
        exact ⟨rfl, (jsonParseDasServerInfo_eq_nullDereference_iff.mp hrun).2⟩
  · rintro ⟨rfl, hless⟩
    have hrun : jsonParseDasServerInfo (lib.parse text) DasInfo.zero =
        .error .nullDereference DasInfo.zero :=
      jsonParseDasServerInfo_eq_nullDereference_iff.mpr ⟨rfl, hless⟩
    unfold parseDasServerInfo
    rw [hrun]

/-- A run reads through NULL exactly when the document of its last response
lacks only the address. -/
theorem nullDereference_iff
    {flow : LbsFlow} {lib : LbsLibraries Context} {rand : ℕ → ℕ}
    {session : LbsSession Context} :
    (∃ reached, flow.run lib rand session =
        .error .nullDereference reached) ↔
      ∃ text middle document dasInfo,
        flow.exchange lib rand session = .ok text middle ∧
          lib.parse text = some document ∧ Addressless document dasInfo := by
  rw [run_eq]
  constructor
  · rintro ⟨reached, herror⟩
    obtain ⟨finished, hrun, _⟩ := error_of_finiLbsAffair herror
    rw [bind_error_iff] at hrun
    rcases hrun with hexchange | ⟨text, middle, hexchange, hrun⟩
    · exact ((flow.keeps_exchange lib rand).of_error hexchange).2.elim
    · rw [bind_error_iff] at hrun
      rcases hrun with hparse | ⟨dasInfo, parsed, _, hinstall⟩
      · obtain ⟨_, document, dasInfo, hdocument, hless⟩ :=
          parseDasServerInfo_eq_nullDereference_iff.mp hparse
        exact ⟨text, middle, document, dasInfo, hexchange, hdocument, hless⟩
      · obtain ⟨_, hinstalls, _⟩ := flow.install_eq dasInfo parsed
        rw [hinstalls] at hinstall
        cases hinstall
  · rintro ⟨text, middle, document, dasInfo, hexchange, hdocument, hless⟩
    have hparse : parseDasServerInfo lib text middle =
        .error .nullDereference middle :=
      parseDasServerInfo_eq_nullDereference_iff.mpr
        ⟨rfl, document, dasInfo, hdocument, hless⟩
    refine ⟨middle, ?_⟩
    unfold finiLbsAffair
    rw [bind_error_iff.mpr (Or.inr ⟨text, middle, hexchange,
      bind_error_iff.mpr (Or.inl hparse)⟩)]

/-! ## Atomicity -/

/-- A run returns with the credentials of one handshake in the kernel and,
where the flow saves them, in the key-values, or it fails and both are what
they were. -/
def Atomic (flow : LbsFlow) (lib : LbsLibraries Context) (rand : ℕ → ℕ)
    (session : LbsSession Context) : Prop :=
  match flow.run lib rand session with
  | .ok _ reached => ∃ credentials,
      flow.Handshake lib rand session credentials ∧
        installed reached =
          (credentials, flow.saved credentials session.keyValues)
  | .error (.code error) reached =>
      error ≠ .succ ∧ installed reached = installed session
  | .error .nullDereference _ => False

/-- The document of the last response is not one that lacks only the
address. -/
def NamesAddress (flow : LbsFlow) (lib : LbsLibraries Context)
    (rand : ℕ → ℕ) (session : LbsSession Context) : Prop :=
  ∀ text middle document dasInfo,
    flow.exchange lib rand session = .ok text middle →
      lib.parse text = some document → ¬ Addressless document dasInfo

theorem lbs_redirect_atomic_iff
    (flow : LbsFlow) (lib : LbsLibraries Context) (rand : ℕ → ℕ)
    (session : LbsSession Context) :
    flow.Atomic lib rand session ↔ flow.NamesAddress lib rand session := by
  have hnames : flow.NamesAddress lib rand session ↔
      ¬ ∃ reached, flow.run lib rand session =
        .error .nullDereference reached := by
    rw [nullDereference_iff]
    unfold NamesAddress
    push Not
    rfl
  rw [hnames]
  unfold Atomic
  cases hrun : flow.run lib rand session with
  | ok _ reached =>
      have hhandshake := handshake_of_ok hrun
      simpa using hhandshake
  | error abort reached =>
      cases abort with
      | code error =>
          obtain ⟨hkept, hreported⟩ := kept_of_error hrun
          have herror : error ≠ .succ := fun hsucc =>
            hreported (congrArg Abort.code hsucc)
          simp [herror, hkept]
      | nullDereference => simp

end LbsFlow

/-! ## A server that behaves -/

/-- A cipher that leaves the data as they are. -/
def plainCipher : AesCipher where
  setkeyEnc _ := 0
  setkeyDec _ := 0
  cryptCbcEncrypt _ _ input := .ok input
  cryptCbcDecrypt _ _ input := .ok input
  length_cryptCbcEncrypt := @length_of_copied
  length_cryptCbcDecrypt := @length_of_copied

/-- Libraries under which every text is the given document. -/
def plainLibraries (document : BscJson) : LbsLibraries Unit where
  aes := plainCipher
  md5 _ := List.replicate 16 0
  sha384 _ := List.replicate 48 0
  mdHmacSha384 _ _ := .ok (List.replicate 48 0)
  length_mdHmacSha384 := by
    intro key message digest hdigest
    cases hdigest
    rfl
  ecpGroupLoad ctx := .ok ctx
  ecdhMakePublic ctx := .ok (List.replicate 98 0, ctx)
  ecdhReadPublic ctx _ := .ok ctx
  ecdhCalcSecret _ := .ok (List.replicate 48 0)
  parse _ := some document
  printBuffered _ := some []

def restingKernel : LbsKernel where
  devInfo := ⟨0, 0, [0x53], [0x43]⟩
  serverIp := []
  devId := List.replicate 32 1
  masterKey := List.replicate 16 2
  sessionKey := List.replicate 16 3
  redirectDasInfo := DasInfo.zero

def restingSession (incoming : Bytes) : LbsSession Unit where
  kernel := restingKernel
  keyValues := fun _ => []
  affair := LbsAffair.zero
  ctxClient := ()
  network := ⟨[], [], incoming, []⟩

def dasDocument (address : List (CString × BscJson)) : BscJson :=
  .object [("Type".toList, .string "DAS".toList),
    ("DasInfo".toList, .object (address ++
      [("Port".toList, .number 8666), ("UdpPort".toList, .number 8667),
        ("Domain".toList, .string "d".toList),
        ("ServerID".toList, .string "s".toList)]))]

/-- The responses of a refresh: the message with the key, and a text that is
all padding. -/
def refreshFrames (plain : Bytes) : Bytes :=
  [0x80, 36, 1, 1, 0, 0] ++ plain ++
    ([0xB0, 20, 1, 1, 0, 0] ++ List.replicate 16 16)

/-- Libraries and a server with an address in its answer. -/
def servingLibraries : LbsLibraries Unit :=
  plainLibraries (dasDocument [("Address".toList, .string "a".toList)])

/-- The device before a refresh whose message has as many bytes of its own
as given. -/
def refreshingSession (length : ℕ) : LbsSession Unit :=
  restingSession (refreshFrames
    (List.replicate length 0 ++
      List.replicate (32 - length) (UInt8.ofNat (32 - length))))

namespace LbsFlow

/-- How a run ends early, if it does. -/
def ending (flow : LbsFlow) (lib : LbsLibraries Context) (rand : ℕ → ℕ)
    (session : LbsSession Context) : Option Abort :=
  match flow.run lib rand session with
  | .ok _ _ => none
  | .error abort _ => some abort

/-- A server that leaves the address out makes the device read through
NULL. -/
theorem addressless_answer_not_atomic :
    ¬ LbsFlow.refresh.Atomic (plainLibraries (dasDocument [])) (fun _ => 0)
      (refreshingSession 18) := by
  have hending : LbsFlow.refresh.ending (plainLibraries (dasDocument []))
      (fun _ => 0) (refreshingSession 18) = some .nullDereference := by
    decide +kernel
  intro hatomic
  unfold ending at hending
  unfold Atomic at hatomic
  split at hatomic
  · next hrun =>
      rw [hrun] at hending
      cases hending
  · next hrun =>
      rw [hrun] at hending
      cases hending
  · exact hatomic

/-! ## Authenticity -/

def finalSession (flow : LbsFlow) (lib : LbsLibraries Context)
    (rand : ℕ → ℕ) (session : LbsSession Context) : LbsSession Context :=
  match flow.run lib rand session with
  | .ok _ reached => reached
  | .error _ reached => reached

/-- A session key of this exchange reaches the kernel. -/
def KeyReaches (flow : LbsFlow) (lib : LbsLibraries Context)
    (rand : ℕ → ℕ) (session : LbsSession Context) : Prop :=
  flow.ending lib rand session = none ∨
    (flow.finalSession lib rand session).kernel.sessionKey ≠
      session.kernel.sessionKey

end LbsFlow

/-- The key is the one of a response that ends with the signature under the
master key of the handshake. -/
structure SignedKey (lib : LbsLibraries Context)
    (session : LbsSession Context) (nUpper : Bool) (responseCmd : ℕ)
    (first second : LbsFrame) (masterKey sessionKey : Bytes) : Prop where
  received : first.bytes ++ second.bytes <+: session.network.incoming
  firstCmd : first.cmd = 0x2
  secondCmd : second.cmd = responseCmd
  derived : ∃ pubkey ctxClient,
    generatePublicKey lib session.ctxClient = .ok (pubkey, ctxClient) ∧
      AuthenticationAnswer lib
        (generateSharekey lib session.kernel.devInfo nUpper) ctxClient
        first.body masterKey
  long : 48 ≤ second.body.length
  signed :
    lib.mdHmacSha384 masterKey
        (lib.sha384 session.kernel.devInfo.devSubserial) =
      .ok (second.body.drop (second.body.length - 48))
  decrypted : ∃ plain,
    aesCbc128DecPadding lib.aes masterKey (second.body.drop 54) 32 =
      .ok plain ∧ plain.length = 16 ∧ sessionKey = plain.text

/-- The key is the one of a message that echoes the first random byte and
holds a second one and the whole key. -/
structure EchoedKey (lib : LbsLibraries Context) (rand : ℕ → ℕ)
    (session : LbsSession Context) (first : LbsFrame) (plain : AesPlain)
    (sessionKey : Bytes) : Prop where
  received : first.bytes <+: session.network.incoming
  firstCmd : first.cmd = 0x8
  decrypted : aesCbc128DecPadding lib.aes session.kernel.masterKey
    (first.body.drop 4) 32 = .ok plain
  echoed : plain.text.headD 0 = UInt8.ofNat (rand 0 % 256)
  whole : 18 ≤ plain.length
  sessionKey : sessionKey = (plain.text.drop 2).take 16

theorem AuthExchange.signedKey
    {lib : LbsLibraries Context} {session : LbsSession Context}
    {nUpper : Bool} {responseCmd : ℕ} {first second third : LbsFrame}
    {devId masterKey sessionKey : Bytes} {text : CString}
    (hexchange : AuthExchange lib session nUpper responseCmd first second
      third devId masterKey sessionKey text) :
    SignedKey lib session nUpper responseCmd first second masterKey
      sessionKey where
  received :=
    (List.prefix_append (first.bytes ++ second.bytes) third.bytes).trans
      hexchange.received
  firstCmd := hexchange.firstCmd
  secondCmd := hexchange.secondCmd
  derived := hexchange.authentication
  long := by
    rw [hexchange.sessionkey.length]
    omega
  signed := by
    rw [hexchange.sessionkey.length]
    exact hexchange.sessionkey.signed
  decrypted := hexchange.sessionkey.sessionKey

/-- A refresh echoes by its check, and its key is whole exactly when the
message has room for it. -/
theorem RefreshExchange.echoedKey
    {lib : LbsLibraries Context} {rand : ℕ → ℕ}
    {session : LbsSession Context} {first second : LbsFrame}
    {plain : AesPlain} {devId masterKey sessionKey : Bytes} {text : CString}
    (hexchange : RefreshExchange lib rand session first second plain devId
      masterKey sessionKey text)
    (hwhole : 18 ≤ plain.length) :
    EchoedKey lib rand session first plain sessionKey where
  received :=
    (List.prefix_append first.bytes second.bytes).trans hexchange.received
  firstCmd := hexchange.firstCmd
  decrypted := hexchange.refresh.decrypted
  echoed := by
    rw [← hexchange.refresh.echoed, AesPlain.text, List.headD_eq_head?_getD,
      List.headD_eq_head?_getD, List.head?_take, if_neg (by omega)]
  whole := hwhole
  sessionKey := by
    rw [hexchange.refresh.sessionKey, AesPlain.text, List.drop_take,
      List.take_take, min_eq_left (by omega)]

namespace LbsFlow

/-- The key that the kernel has afterwards is authentic. -/
def Authentic (flow : LbsFlow) (lib : LbsLibraries Context)
    (rand : ℕ → ℕ) (session : LbsSession Context) : Prop :=
  match flow with
  | .withAuth nUpper => ∃ first second masterKey,
      SignedKey lib session nUpper 0x6 first second masterKey
        (flow.finalSession lib rand session).kernel.sessionKey
  | .createdevidWithAuth nUpper => ∃ first second masterKey,
      SignedKey lib session nUpper 0x8 first second masterKey
        (flow.finalSession lib rand session).kernel.sessionKey
  | .refresh => ∃ first plain,
      EchoedKey lib rand session first plain
        (flow.finalSession lib rand session).kernel.sessionKey

/-- The refresh message that the server sends first is padded by at most
fourteen bytes. -/
def RefreshHoldsKey (flow : LbsFlow) (lib : LbsLibraries Context)
    (session : LbsSession Context) : Prop :=
  flow = .refresh → ∀ (first : LbsFrame) (plain : AesPlain),
    first.bytes <+: session.network.incoming →
      aesCbc128DecPadding lib.aes session.kernel.masterKey
        (first.body.drop 4) 32 = .ok plain →
      plain.paddingChar.toNat ≤ 14

theorem completes_of_keyReaches
    {flow : LbsFlow} {lib : LbsLibraries Context} {rand : ℕ → ℕ}
    {session : LbsSession Context}
    (hreaches : flow.KeyReaches lib rand session) :
    flow.run lib rand session =
      .ok () (flow.finalSession lib rand session) := by
  unfold KeyReaches ending finalSession at hreaches
  unfold finalSession
  cases hrun : flow.run lib rand session with
  | ok value reached => rfl
  | error abort reached =>
      rw [hrun] at hreaches
      have hkept := congrArg (fun view => view.1.sessionKey)
        (kept_of_error hrun).1
      rcases hreaches with hcompletes | hchanged
      · cases hcompletes
      · exact (hchanged hkept).elim

/-- A plain text of 32 bytes has eighteen of its own exactly when at most
fourteen are padding. -/
theorem whole_iff
    {cipher : AesCipher} {key input : Bytes} {plain : AesPlain}
    (hplain : aesCbc128DecPadding cipher key input 32 = .ok plain) :
    18 ≤ plain.length ↔ plain.paddingChar.toNat ≤ 14 := by
  have hlength := aesCbc128DecPadding_length hplain
  omega

/-- The first frame and its plain text are the only ones there are. -/
theorem plain_unique
    {lib : LbsLibraries Context} {session : LbsSession Context}
    {first other : LbsFrame} {plain otherPlain : AesPlain}
    (hfirst : first.bytes <+: session.network.incoming)
    (hplain : aesCbc128DecPadding lib.aes session.kernel.masterKey
      (first.body.drop 4) 32 = .ok plain)
    (hother : other.bytes <+: session.network.incoming)
    (hotherPlain : aesCbc128DecPadding lib.aes session.kernel.masterKey
      (other.body.drop 4) 32 = .ok otherPlain) :
    plain = otherPlain := by
  have hframe := LbsFrame.eq_of_prefix hfirst hother
  rw [hframe, hotherPlain] at hplain
  exact (Except.ok.inj hplain).symm

theorem authentic_iff_of_keyReaches
    {flow : LbsFlow} {lib : LbsLibraries Context} {rand : ℕ → ℕ}
    {session : LbsSession Context}
    (hreaches : flow.KeyReaches lib rand session) :
    flow.Authentic lib rand session ↔
      flow.RefreshHoldsKey lib session := by
  obtain ⟨credentials, ⟨text, hexchanges, _⟩, hinstalled⟩ :=
    handshake_of_ok (completes_of_keyReaches hreaches)
  have hkey : (flow.finalSession lib rand session).kernel.sessionKey =
      credentials.sessionKey :=
    congrArg (fun view => view.1.sessionKey) hinstalled
  unfold Authentic
  cases flow with
  | withAuth nUpper =>
      obtain ⟨first, second, third, hexchange⟩ := hexchanges
      rw [hkey]
      apply iff_of_true
      · exact ⟨first, second, _, hexchange.signedKey⟩
      · intro hflow
        cases hflow
  | createdevidWithAuth nUpper =>
      obtain ⟨first, second, third, hexchange⟩ := hexchanges
      rw [hkey]
      apply iff_of_true
      · exact ⟨first, second, _, hexchange.signedKey⟩
      · intro hflow
        cases hflow
  | refresh =>
      obtain ⟨first, second, plain, hexchange⟩ := hexchanges
      rw [hkey]
      constructor
      · rintro ⟨first, plain, hechoed⟩ _ other otherPlain hother hotherPlain
        rw [← whole_iff hotherPlain, ← plain_unique hechoed.received
          hechoed.decrypted hother hotherPlain]
        exact hechoed.whole
      · intro hholds
        have hpadding := hholds rfl first plain
          ((List.prefix_append first.bytes second.bytes).trans
            hexchange.received) hexchange.refresh.decrypted
        have hwhole := (whole_iff hexchange.refresh.decrypted).mpr hpadding
        exact ⟨first, plain, hexchange.echoedKey hwhole⟩

/-- Two bytes of the message's key are its padding. -/
theorem padded_message_not_authentic :
    LbsFlow.refresh.KeyReaches servingLibraries (fun _ => 0)
        (refreshingSession 16) ∧
      ¬ LbsFlow.refresh.Authentic servingLibraries (fun _ => 0)
        (refreshingSession 16) := by
  have hreaches : LbsFlow.refresh.KeyReaches servingLibraries (fun _ => 0)
      (refreshingSession 16) := by
    left
    decide +kernel
  refine ⟨hreaches, ?_⟩
  rw [authentic_iff_of_keyReaches hreaches]
  intro hholds
  have hpadding := hholds rfl
    { head := 0x80
      lengthField := [36]
      body := [1, 1, 0, 0] ++
        (List.replicate 16 0 ++ List.replicate 16 16)
      ends := by simp [LengthFieldEnds]
      announces := by decide }
    ⟨List.replicate 16 0 ++ List.replicate 16 16, 16⟩
    ⟨[0xB0, 20, 1, 1, 0, 0] ++ List.replicate 16 16, rfl⟩ rfl
  exact absurd hpadding (by decide)

theorem session_key_authentic_iff
    (flow : LbsFlow) (lib : LbsLibraries Context) (rand : ℕ → ℕ)
    (session : LbsSession Context)
    (hreaches : flow.KeyReaches lib rand session) :
    flow.Authentic lib rand session ↔ flow.RefreshHoldsKey lib session :=
  authentic_iff_of_keyReaches hreaches

theorem session_key_authentic_iff_whole_message :
    LbsFlow.refresh.Authentic servingLibraries (fun _ => 0)
        (refreshingSession 18) ↔
      LbsFlow.refresh.RefreshHoldsKey servingLibraries
        (refreshingSession 18) :=
  session_key_authentic_iff .refresh _ _ _ (Or.inl (by decide +kernel))

end LbsFlow

end EziotSdk
