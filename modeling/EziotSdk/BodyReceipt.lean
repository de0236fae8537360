import EziotSdk.WifiProvisioning

/-!
# Receipt of a provisioning request

`http_put_wifi_handler` receives the body of a request into a fixed buffer and
hands it to `prenetwork_entry`.  It leaves at once when the server is about to
exit, and waits while another request is served.  The network answers each
receive call with some bytes, with a time-out or with a failure; the results of
a delivery are listed with the condition that they can be the answers to the
calls made.
-/

namespace EziotSdk

open CString

/-! ## Deliveries -/

/-- The result of one call of `httpd_req_recv`. -/
inductive RecvResult where
  | data (cells : Cells)
  | timeout
  | failure
  deriving DecidableEq

def httpbodySize : ℕ := 1024

/-- The results of the calls that are made while bytes remain. -/
def Answers : ℤ → List RecvResult → Prop
  | remaining, [] => remaining ≤ 0
  | remaining, .timeout :: rest => 0 < remaining ∧ Answers remaining rest
  | remaining, .failure :: rest => 0 < remaining ∧ rest = []
  | remaining, .data cells :: rest =>
      cells ≠ [] ∧ (cells.length : ℤ) ≤ min remaining httpbodySize ∧
        Answers (remaining - cells.length) rest

/-- `int remaining = req->content_len`. -/
def remainingOf (contentLen : ℕ) : ℤ := (contentLen : ℤ).bmod (2 ^ 32)

structure RequestDelivery where
  contentLen : ℕ
  results : List RecvResult
  answers : Answers (remainingOf contentLen) results

def RecvResult.chunk? : RecvResult → Option Cells
  | .data cells => some cells
  | .timeout => none
  | .failure => none

namespace RequestDelivery

def chunks (delivery : RequestDelivery) : List Cells :=
  delivery.results.filterMap RecvResult.chunk?

/-- The bytes that have arrived: the body, unless the connection failed. -/
def arrived (delivery : RequestDelivery) : Cells := delivery.chunks.flatten

def Complete (delivery : RequestDelivery) : Prop :=
  .failure ∉ delivery.results

end RequestDelivery

/-! ## The handler -/

/-- A receive call writes to the start of the buffer. -/
def overlay (held cells : Cells) : Cells :=
  cells ++ held.drop cells.length

def receiveBody : ℤ → Cells → List RecvResult → Cells
  | _, httpbody, [] => httpbody
  | remaining, httpbody, result :: rest =>
      if 0 < remaining then
        match result with
        | .timeout => receiveBody remaining httpbody rest
        | .failure => httpbody
        | .data cells =>
            receiveBody (remaining - cells.length) (overlay httpbody cells)
              rest
      else httpbody

def RequestDelivery.httpbody (delivery : RequestDelivery) : Cells :=
  receiveBody (remainingOf delivery.contentLen)
    (List.replicate httpbodySize none) delivery.results

section Handler

variable (parse : CString → Option BscJson)

/-- The state after a request; a status other than success only shows in the
response. -/
def reachedBy : EStateM.Result WifiStop WifiStation Unit → WifiStation
  | .ok _ station => station
  | .error _ station => station

def prenetworkEntry (httpbody : Cells) (apNet : WifiStation) : WifiStation :=
  match parse httpbody.readString with
  | none => apNet
  | some jsonDoc => reachedBy (preWifiConfigBasic jsonDoc apNet)

/-- The cleared request block with the calls of `iot_sta_connect`,
`g_wifi_info`, `g_exit_flag` and `g_server_busy`. -/
structure WifiServer where
  apNet : WifiStation
  wifiInfo : WifiInfo
  exitFlag : Bool
  serverBusy : Bool

/-- What others have made of the two flags during a sleep of the wait. -/
structure FlagLook where
  exitFlag : Bool
  serverBusy : Bool

/-- `while (g_server_busy)`, up to the end of the looks; whether the handler
goes on. -/
def waitServer : List FlagLook → WifiServer → Bool × WifiServer
  | [], server => (!server.serverBusy, server)
  | look :: rest, server =>
      if server.serverBusy then
        let server := { server with
          exitFlag := look.exitFlag
          serverBusy := look.serverBusy }
        if look.exitFlag then (false, server) else waitServer rest server
      else (true, server)

/-- What `prenetwork_entry` is called with, and the state that is left. -/
structure PutOutcome where
  handed : Option Cells
  server : WifiServer

/-- The handler behind the wait.  `connected`: one of the hundred looks at the
station finds it connected. -/
def putWifiConfig (delivery : RequestDelivery) (connected : Bool)
    (server : WifiServer) : PutOutcome :=
  let apNet := prenetworkEntry parse delivery.httpbody server.apNet.clear
  { handed := some delivery.httpbody
    server :=
      { apNet := apNet
        wifiInfo := if connected then apNet.info else server.wifiInfo
        exitFlag := if connected then true else server.exitFlag
        serverBusy := connected } }

def httpPutWifiHandler (looks : List FlagLook) (delivery : RequestDelivery)
    (connected : Bool) (server : WifiServer) : PutOutcome :=
  if server.exitFlag then ⟨none, server⟩
  else
    let waited := waitServer looks server
    if waited.1 then putWifiConfig parse delivery connected waited.2
    else ⟨none, waited.2⟩

/-- Nothing of a body is given to the station or kept. -/
structure NotApplied (connected : Bool) (before : WifiServer)
    (outcome : PutOutcome) : Prop where
  connects : outcome.server.apNet.connects = before.apNet.connects
  cleared : outcome.handed ≠ none → connected = true →
    outcome.server.wifiInfo = .cleared
  untouched : outcome.handed = none →
    outcome.server.apNet = before.apNet ∧
      outcome.server.wifiInfo = before.wifiInfo

structure ReceiptSound (looks : List FlagLook) (delivery : RequestDelivery)
    (connected : Bool) (server : WifiServer) : Prop where
  whole : delivery.contentLen < httpbodySize → delivery.Complete →
    ∃ httpbody, (httpPutWifiHandler parse looks delivery connected
        server).handed = some httpbody ∧
      httpbody.readString.map some = delivery.arrived
  refused : httpbodySize ≤ delivery.contentLen ∨ ¬ delivery.Complete →
    NotApplied connected server
      (httpPutWifiHandler parse looks delivery connected server)

end Handler

/-! ## The flags -/

/-- The server is not about to exit, and stops being busy with another
request first. -/
def WifiServer.LetsIn (looks : List FlagLook) (server : WifiServer) : Prop :=
  server.exitFlag = false ∧ (waitServer looks server).1 = true

theorem waitServer_keeps (looks : List FlagLook) (server : WifiServer) :
    (waitServer looks server).2.apNet = server.apNet ∧
      (waitServer looks server).2.wifiInfo = server.wifiInfo := by
  induction looks generalizing server with
  | nil => exact ⟨rfl, rfl⟩
  | cons look rest ih =>
      unfold waitServer
      split_ifs
      · exact ⟨rfl, rfl⟩
      · exact ih _
      · exact ⟨rfl, rfl⟩

section Flags

variable {parse : CString → Option BscJson} {looks : List FlagLook}
  {delivery : RequestDelivery} {connected : Bool} {server : WifiServer}

theorem httpPutWifiHandler_of_letsIn (hlets : server.LetsIn looks) :
    httpPutWifiHandler parse looks delivery connected server =
      putWifiConfig parse delivery connected (waitServer looks server).2 := by
  unfold httpPutWifiHandler
  rw [if_neg (Bool.eq_false_iff.mp hlets.1)]
  exact if_pos hlets.2

/-- A request that is not let in is answered without a look at its body. -/
theorem httpPutWifiHandler_of_not_letsIn (hnot : ¬ server.LetsIn looks) :
    (httpPutWifiHandler parse looks delivery connected server).handed = none ∧
      NotApplied connected server
        (httpPutWifiHandler parse looks delivery connected server) := by
  have hkeeps := waitServer_keeps looks server
  unfold httpPutWifiHandler
  dsimp only
  split_ifs with hexit hwaited
  · exact ⟨rfl, rfl, fun hhanded => absurd rfl hhanded, fun _ => ⟨rfl, rfl⟩⟩
  · exact absurd ⟨Bool.eq_false_of_not_eq_true hexit, hwaited⟩ hnot
  · exact ⟨rfl, congrArg _ hkeeps.1, fun hhanded => absurd rfl hhanded,
      fun _ => hkeeps⟩

end Flags

/-! ## Chunks that lie over each other -/

/-- The last chunk that reaches a position. -/
def laidCell (chunks : List Cells) (position : ℕ) : Option Char :=
  (chunks.filter (position < ·.length)).getLast?.bind fun cells =>
    (cells[position]?).join

/-- What is left of chunks that all start at the same place. -/
def laidText (chunks : List Cells) : CString :=
  Cells.readString ((List.range httpbodySize).map (laidCell chunks))

theorem laidCell_append (chunks : List Cells) (cells : Cells) (position : ℕ) :
    laidCell (chunks ++ [cells]) position =
      if position < cells.length then (cells[position]?).join
      else laidCell chunks position := by
  unfold laidCell
  rw [List.filter_append]
  by_cases hlt : position < cells.length
  · rw [if_pos hlt, List.filter_cons_of_pos (by simpa using hlt),
      List.filter_nil, List.getLast?_concat, Option.bind_some]
  · rw [if_neg hlt, List.filter_cons_of_neg (by simpa using hlt),
      List.filter_nil, List.append_nil]

theorem overlay_laid {chunks : List Cells} {cells : Cells}
    (hlength : cells.length ≤ httpbodySize) :
    overlay ((List.range httpbodySize).map (laidCell chunks)) cells =
      (List.range httpbodySize).map (laidCell (chunks ++ [cells])) := by
  apply List.ext_getElem
  · simp only [overlay, List.length_append, List.length_drop,
      List.length_map, List.length_range]
    omega
  · intro position hleft hright
    rw [List.getElem_map, List.getElem_range, laidCell_append]
    by_cases hlt : position < cells.length
    · rw [if_pos hlt]
      simp only [overlay, List.getElem_append_left hlt,
        List.getElem?_eq_getElem hlt, Option.join_some]
    · rw [if_neg hlt]
      have hle : cells.length ≤ position := Nat.le_of_not_lt hlt
      simp only [overlay, List.getElem_append_right hle, List.getElem_drop,
        List.getElem_map, List.getElem_range, Nat.add_sub_cancel' hle]

theorem blank_laid :
    (List.range httpbodySize).map (laidCell []) =
      List.replicate httpbodySize none := by
  apply List.eq_replicate_iff.mpr
  constructor
  · rw [List.length_map, List.length_range]
  · intro cell hcell
    rcases List.mem_map.mp hcell with ⟨position, -, rfl⟩
    rfl

/-- The loop, from a buffer that holds the chunks before. -/
theorem receiveBody_laid {results : List RecvResult} {remaining : ℤ}
    (hanswers : Answers remaining results) (seen : List Cells) :
    receiveBody remaining ((List.range httpbodySize).map (laidCell seen))
        results =
      (List.range httpbodySize).map
        (laidCell (seen ++ results.filterMap RecvResult.chunk?)) := by
  induction results generalizing remaining seen with
  | nil => simp [receiveBody]
  | cons result rest ih =>
      cases result with
      | timeout =>
          rcases hanswers with ⟨hpos, hrest⟩
          rw [receiveBody, if_pos hpos]
          exact ih hrest seen
      | failure =>
          rcases hanswers with ⟨hpos, rfl⟩
          rw [receiveBody, if_pos hpos]
          rw [List.filterMap_cons_none rfl, List.filterMap_nil,
            List.append_nil]
      | data cells =>
          rcases hanswers with ⟨hcells, hlength, hrest⟩
          have hpos := List.length_pos_of_ne_nil hcells
          have hremaining : 0 < remaining := by omega
          rw [receiveBody, if_pos hremaining]
          change receiveBody _ (overlay _ cells) rest = _
          rw [overlay_laid (by omega), ih hrest, List.append_assoc]
          rfl

namespace RequestDelivery

theorem httpbody_eq (delivery : RequestDelivery) :
    delivery.httpbody =
      (List.range httpbodySize).map (laidCell delivery.chunks) := by
  rw [httpbody, ← blank_laid, receiveBody_laid delivery.answers,
    List.nil_append]
  rfl

theorem chunk_sized {results : List RecvResult} {remaining : ℤ}
    (hanswers : Answers remaining results) :
    ∀ cells ∈ results.filterMap RecvResult.chunk?,
      cells ≠ [] ∧ cells.length ≤ httpbodySize := by
  induction results generalizing remaining with
  | nil => exact fun cells hmem => absurd hmem List.not_mem_nil
  | cons result rest ih =>
      cases result with
      | timeout => exact ih hanswers.2
      | failure =>
          rcases hanswers with ⟨-, rfl⟩
          exact fun cells hmem => absurd hmem List.not_mem_nil
      | data own =>
          rcases hanswers with ⟨hcells, hlength, hrest⟩
          change ∀ cells ∈ own :: rest.filterMap RecvResult.chunk?, _
          rw [List.forall_mem_cons]
          exact ⟨⟨hcells, by omega⟩, ih hrest⟩

/-- Without a failure as many bytes arrive as were announced. -/
theorem arrived_length {results : List RecvResult} {remaining : ℤ}
    (hanswers : Answers remaining results) (hcomplete : .failure ∉ results)
    (hremaining : 0 ≤ remaining) :
    ((results.filterMap RecvResult.chunk?).flatten.length : ℤ) =
      remaining := by
  induction results generalizing remaining with
  | nil => exact le_antisymm hremaining hanswers
  | cons result rest ih =>
      rw [List.mem_cons, not_or] at hcomplete
      cases result with
      | timeout => exact ih hanswers.2 hcomplete.2 hremaining
      | failure => exact absurd rfl hcomplete.1
      | data cells =>
          rcases hanswers with ⟨-, hlength, hrest⟩
          have hlater := ih hrest hcomplete.2 (by omega)
          change ((cells ++ (rest.filterMap
            RecvResult.chunk?).flatten).length : ℤ) = remaining
          rw [List.length_append]
          omega

end RequestDelivery

/-! ## What is handed on -/

theorem readString_length_le_of_none {cells : Cells} {position : ℕ}
    (hcell : cells[position]? = some none) :
    cells.readString.length ≤ position := by
  induction cells generalizing position with
  | nil => simp at hcell
  | cons cell rest ih =>
      cases cell with
      | none => exact Nat.zero_le position
      | some char =>
          cases position with
          | zero => simp at hcell
          | succ position => exact Nat.succ_le_succ (ih (by simpa using hcell))

theorem exists_map_some {cells : Cells} (htext : none ∉ cells) :
    ∃ text : CString, text.map some = cells := by
  induction cells with
  | nil => exact ⟨[], rfl⟩
  | cons cell rest ih =>
      rw [List.mem_cons, not_or] at htext
      rcases ih htext.2 with ⟨text, rfl⟩
      cases cell with
      | none => exact absurd rfl htext.1
      | some char => exact ⟨char :: text, rfl⟩

theorem laidText_singleton {cells : Cells}
    (hlength : cells.length ≤ httpbodySize) (htext : none ∉ cells) :
    (laidText [cells]).map some = cells := by
  rcases exists_map_some htext with ⟨text, rfl⟩
  rw [laidText, ← List.nil_append [text.map some], ← overlay_laid hlength,
    blank_laid, overlay, Cells.readString_map_some_append]
  rw [List.drop_replicate]
  exact Cells.readString_replicate_none _

/-- Chunks that are no shorter together than one of them are that one. -/
theorem length_le_one_of_flatten_le {chunks : List Cells} {cells : Cells}
    (hchunks : ∀ cells ∈ chunks, cells ≠ []) (hmem : cells ∈ chunks)
    (hle : chunks.flatten.length ≤ cells.length) : chunks.length ≤ 1 := by
  rcases List.append_of_mem hmem with ⟨before, after, rfl⟩
  rw [List.flatten_append, List.flatten_cons, List.length_append,
    List.length_append] at hle
  have hempty : ∀ part : List Cells,
      (∀ one ∈ part, one ∈ before ++ cells :: after) →
        part.flatten.length = 0 → part = [] := by
    intro part hsub hzero
    rw [List.length_eq_zero_iff, List.flatten_eq_nil_iff] at hzero
    apply List.eq_nil_iff_forall_not_mem.mpr
    intro one hone
    exact hchunks one (hsub one hone) (hzero one hone)
  have hbefore := hempty before
    (fun one hone => List.mem_append_left _ hone) (by omega)
  have hafter := hempty after
    (fun one hone =>
      List.mem_append_right _ (List.mem_cons_of_mem cells hone)) (by omega)
  subst hbefore hafter
  rfl

/-- Chunks that lie over each other read as one after the other only if there
is one at most. -/
theorem laidText_eq_flatten_iff {chunks : List Cells}
    (hchunks : ∀ cells ∈ chunks, cells ≠ [] ∧ cells.length ≤ httpbodySize)
    (hfits : chunks.flatten.length < httpbodySize) :
    (laidText chunks).map some = chunks.flatten ↔
      chunks.length ≤ 1 ∧ none ∉ chunks.flatten := by
  constructor
  · intro heq
    have htext : none ∉ chunks.flatten := by
      rw [← heq]
      simp
    refine ⟨?_, htext⟩
    cases chunks with
    | nil => exact Nat.zero_le 1
    | cons first rest =>
        have hfirst := hchunks first List.mem_cons_self
        have hpos := List.length_pos_of_ne_nil hfirst.1
        have hlength : first.length ≤ (first :: rest).flatten.length := by
          rw [List.flatten_cons, List.length_append]
          exact Nat.le_add_right _ _
        -- The last byte of the body is one that some chunk reaches.
        have hlast : laidCell (first :: rest)
            ((first :: rest).flatten.length - 1) ≠ none := by
          intro hnone
          have hle : (laidText (first :: rest)).length ≤
              (first :: rest).flatten.length - 1 := by
            apply readString_length_le_of_none
            rw [List.getElem?_map, List.getElem?_range (by omega),
              Option.map_some, hnone]
          have hsame := congrArg List.length heq
          rw [List.length_map] at hsame
          omega
        have hreach : ∃ cells ∈ first :: rest,
            (first :: rest).flatten.length - 1 < cells.length := by
          by_contra hnot
          push Not at hnot
          apply hlast
          have hfilter : (first :: rest).filter
              ((first :: rest).flatten.length - 1 < ·.length) = [] := by
            rw [List.filter_eq_nil_iff]
            intro cells hmem
            simpa using hnot cells hmem
          rw [laidCell, hfilter]
          rfl
        rcases hreach with ⟨cells, hmem, hlt⟩
        apply length_le_one_of_flatten_le
          (fun cells hmem => (hchunks cells hmem).1) hmem
        omega
  · rintro ⟨hone, htext⟩
    cases chunks with
    | nil =>
        rw [laidText, blank_laid, Cells.readString_replicate_none]
        rfl
    | cons cells rest =>
        have hrest : rest = [] := by
          rw [← List.length_eq_zero_iff]
          rw [List.length_cons] at hone
          omega
        subst hrest
        have hcells : [cells].flatten = cells := List.flatten_singleton
        rw [hcells] at htext ⊢
        exact laidText_singleton (hchunks cells List.mem_cons_self).2 htext

/-! ## What is applied -/

theorem copyAll_ap_ne_none (texts : List (WifiField × CString))
    (info : WifiInfo) : copyAll apCopy texts info ≠ none := by
  induction texts generalizing info with
  | nil => exact Option.some_ne_none info
  | cons entry rest ih =>
      change (apCopy entry.1 (info entry.1) entry.2).bind _ ≠ none
      rw [apCopy, Option.bind_some]
      exact ih _

theorem preWifiConfigBasic_cleared (js : BscJson) (station : WifiStation) :
    ∃ last, copyAll apCopy (copiedTexts js apSteps) .cleared = some last ∧
      (lookupStop js apSteps ≠ none →
        reachedBy (preWifiConfigBasic js station.clear) =
          { station with info := last }) ∧
      (lookupStop js apSteps = none →
        (reachedBy (preWifiConfigBasic js station.clear)).connects =
          station.connects ++ [(last .ssid, last .password)]) := by
  cases hcopy : copyAll apCopy (copiedTexts js apSteps) .cleared with
  | none => exact absurd hcopy (copyAll_ap_ne_none _ _)
  | some last =>
      have hrun : prePutWifiConfigJson js station.clear = _ :=
        runSteps_of_copyAll hcopy
      refine ⟨last, rfl, ?_, ?_⟩
      · intro hstop
        cases hreason : lookupStop js apSteps with
        | none => exact absurd hreason hstop
        | some reason =>
            rw [hreason] at hrun
            rw [preWifiConfigBasic, ErrorState.bind_of_error hrun]
            rfl
      · intro hstop
        rw [hstop] at hrun
        rw [preWifiConfigBasic, ErrorState.bind_of_ok hrun]
        rfl

section Receipt

variable (parse : CString → Option BscJson)

/-- A body that fits and arrives is let in, comes in one piece and has no NUL.
What the pieces of any other delivery that is let in make when each is laid
over the one before is not a document with all members; when the station is
connected anyway, no text comes before the member that is missing. -/
structure ReceiptFits (looks : List FlagLook) (delivery : RequestDelivery)
    (connected : Bool) (server : WifiServer) : Prop where
  whole : delivery.contentLen < httpbodySize → delivery.Complete →
    server.LetsIn looks ∧
      delivery.chunks.length ≤ 1 ∧ none ∉ delivery.arrived
  refused : httpbodySize ≤ delivery.contentLen ∨ ¬ delivery.Complete →
    server.LetsIn looks → ∀ jsonDoc,
      parse (laidText delivery.chunks) = some jsonDoc →
      lookupStop jsonDoc apSteps ≠ none ∧
        (connected = true →
          ∀ entry ∈ copiedTexts jsonDoc apSteps, entry.2 = [])

variable {parse} {delivery : RequestDelivery} {connected : Bool}

theorem whole_iff (hfits : delivery.contentLen < httpbodySize)
    (hcomplete : delivery.Complete) :
    delivery.httpbody.readString.map some = delivery.arrived ↔
      delivery.chunks.length ≤ 1 ∧ none ∉ delivery.arrived := by
  have hremaining : remainingOf delivery.contentLen = delivery.contentLen := by
    unfold httpbodySize at hfits
    apply Int.bmod_eq_of_le <;> omega
  have hlength := RequestDelivery.arrived_length delivery.answers hcomplete
    (by omega)
  change (delivery.chunks.flatten.length : ℤ) = _ at hlength
  rw [delivery.httpbody_eq]
  apply laidText_eq_flatten_iff (RequestDelivery.chunk_sized delivery.answers)
  change delivery.chunks.flatten.length < _
  omega

theorem notApplied_iff {before server : WifiServer}
    (hsame : server.apNet = before.apNet) :
    NotApplied connected before
        (putWifiConfig parse delivery connected server) ↔
      ∀ jsonDoc, parse (laidText delivery.chunks) = some jsonDoc →
        lookupStop jsonDoc apSteps ≠ none ∧
          (connected = true →
            ∀ entry ∈ copiedTexts jsonDoc apSteps, entry.2 = []) := by
  have htext : delivery.httpbody.readString = laidText delivery.chunks := by
    rw [delivery.httpbody_eq, laidText]
  cases hparse : parse (laidText delivery.chunks) with
  | none =>
      have happlied : NotApplied connected before
          (putWifiConfig parse delivery connected server) := by
        unfold putWifiConfig prenetworkEntry
        rw [htext, hparse]
        have hconnects : server.apNet.connects = before.apNet.connects := by
          rw [hsame]
        exact ⟨hconnects, fun _ hconnected => if_pos hconnected, nofun⟩
      simp [happlied]
  | some jsonDoc =>
      rcases preWifiConfigBasic_cleared jsonDoc server.apNet with
        ⟨last, hcopy, hstopped, haccepted⟩
      simp only [Option.some.injEq, forall_eq']
      have hself : last = .cleared ↔
          ∀ entry ∈ copiedTexts jsonDoc apSteps, entry.2 = [] := by
        rw [← Option.some.injEq, ← hcopy,
          copyAll_self_iff (apTexts_nodup jsonDoc)]
        exact forall₂_congr fun _ _ => apCopy_eq_nil_iff
      have hnext : (putWifiConfig parse delivery connected server).server =
          { apNet := reachedBy
              (preWifiConfigBasic jsonDoc server.apNet.clear)
            wifiInfo := if connected then
              (reachedBy
                (preWifiConfigBasic jsonDoc server.apNet.clear)).info
              else server.wifiInfo
            exitFlag := if connected then true else server.exitFlag
            serverBusy := connected } := by
        simp only [putWifiConfig, prenetworkEntry, htext, hparse]
      rw [← hself]
      constructor
      · rintro ⟨hconnects, hinfo, -⟩
        rw [hnext, ← hsame] at hconnects
        rw [hnext] at hinfo
        have hstop : lookupStop jsonDoc apSteps ≠ none := by
          intro hnone
          change (reachedBy _).connects = _ at hconnects
          rw [haccepted hnone] at hconnects
          simp at hconnects
        refine ⟨hstop, fun hconnected => ?_⟩
        have hkept := hinfo nofun hconnected
        change (if connected = true then _ else _) = _ at hkept
        rw [if_pos hconnected, hstopped hstop] at hkept
        exact hkept
      · rintro ⟨hstop, hcleared⟩
        rw [hstopped hstop] at hnext
        refine ⟨?_, fun _ hconnected => ?_, nofun⟩
        · rw [hnext, ← hsame]
        · rw [hnext]
          change (if connected = true then last else _) = _
          rw [if_pos hconnected]
          exact hcleared hconnected

end Receipt

/-- A provisioning request is received whole or not applied, exactly if its
delivery fits. -/
theorem httpPutWifiHandler_receives_iff
    (parse : CString → Option BscJson) (looks : List FlagLook)
    (delivery : RequestDelivery) (connected : Bool) (server : WifiServer) :
    ReceiptSound parse looks delivery connected server ↔
      ReceiptFits parse looks delivery connected server := by
  have hkeeps := waitServer_keeps looks server
  by_cases hlets : server.LetsIn looks
  · have hrun : httpPutWifiHandler parse looks delivery connected server = _ :=
      httpPutWifiHandler_of_letsIn hlets
    constructor
    · rintro ⟨hwhole, hrefused⟩
      rw [hrun] at hwhole hrefused
      refine ⟨fun hfits hcomplete => ?_, fun hother _ => ?_⟩
      · obtain ⟨httpbody, hhanded, htext⟩ := hwhole hfits hcomplete
        rw [← Option.some.inj hhanded] at htext
        exact ⟨hlets, (whole_iff hfits hcomplete).mp htext⟩
      · exact (notApplied_iff hkeeps.1).mp (hrefused hother)
    · rintro ⟨hwhole, hrefused⟩
      refine ⟨fun hfits hcomplete => ?_, fun hother => ?_⟩
      · rw [hrun]
        exact ⟨_, rfl,
          (whole_iff hfits hcomplete).mpr (hwhole hfits hcomplete).2⟩
      · rw [hrun]
        exact (notApplied_iff hkeeps.1).mpr (hrefused hother hlets)
  · have hrun : (httpPutWifiHandler parse looks delivery connected
        server).handed = none ∧ NotApplied connected server
          (httpPutWifiHandler parse looks delivery connected server) :=
      httpPutWifiHandler_of_not_letsIn hlets
    constructor
    · rintro ⟨hwhole, -⟩
      refine ⟨fun hfits hcomplete => ?_, fun _ hin => absurd hin hlets⟩
      obtain ⟨httpbody, hhanded, -⟩ := hwhole hfits hcomplete
      rw [hrun.1] at hhanded
      cases hhanded
    · rintro ⟨hwhole, -⟩
      refine ⟨fun hfits hcomplete => ?_, fun _ => hrun.2⟩
      exact absurd (hwhole hfits hcomplete).1 hlets

def halvedAnswers : List RecvResult :=
  [.data ("\x7b".toList.map some), .timeout, .data ("\x7d".toList.map some)]

theorem halvedAnswers_answer : Answers (remainingOf 2) halvedAnswers := by
  refine ⟨by decide, by decide, by decide, by decide, by decide, ?_⟩
  exact le_of_eq (by decide)

/-- A body that comes in two pieces. -/
def halvedDelivery : RequestDelivery := ⟨2, halvedAnswers, halvedAnswers_answer⟩

/-- Of a body in two pieces only the second is handed on. -/
theorem halved_body_lost :
    ¬ ReceiptSound (fun _ => none) [] halvedDelivery false
      ⟨.unused, .cleared, false, false⟩ := by
  intro hsound
  have hcomplete : .failure ∉ halvedAnswers := by decide
  obtain ⟨httpbody, hhanded, hwhole⟩ := hsound.whole (by decide) hcomplete
  rw [← Option.some.inj hhanded] at hwhole
  revert hwhole
  decide

end EziotSdk
