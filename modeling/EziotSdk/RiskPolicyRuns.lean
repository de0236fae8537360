import EziotSdk.RiskPolicy

/-!
# What the risk policy blocks after a run of messages

The handler's loops are folds over the entries of a message, and the effect of
a message on one domain is a flag and a list of stored commands.  The policy
is enforced exactly if every listed command was reached by the inner loop and
found a cell.
-/

namespace EziotSdk

/-! ## The effect of one message on one domain -/

def storeCmds (info : DomainInfo) (cmdIds : List ℕ) : DomainInfo :=
  { info with
    cmdRiskArray :=
      cmdIds.foldl (fun cells cmdId => storeCmdRisk cmdId cells)
        info.cmdRiskArray }

def raiseDomainRisk (info : DomainInfo) (wholly : Bool) : DomainInfo :=
  if wholly then { info with domainRisk := .riskControl } else info

theorem extendGet_addDomainRiskControl
    (domainId other : ℕ) (kernelDomains : List DomainInfo) :
    extendGet other (addDomainRiskControl domainId kernelDomains) =
      (extendGet other kernelDomains).map fun info =>
        raiseDomainRisk info (domainId == other) := by
  have hkeep : ∀ info : DomainInfo,
      DomainInfo.domainId { info with domainRisk := .riskControl } =
        info.domainId := fun _ => rfl
  unfold extendGet addDomainRiskControl
  rw [SlotTable.find_update hkeep]
  by_cases heq : other = domainId
  · simp [heq, raiseDomainRisk]
  · simp [heq, Ne.symm heq, raiseDomainRisk]

theorem extendGet_addCmdRiskControl
    (domainId cmdId other : ℕ) (kernelDomains : List DomainInfo) :
    extendGet other (addCmdRiskControl domainId cmdId kernelDomains) =
      (extendGet other kernelDomains).map fun info =>
        storeCmds info (if domainId = other then [cmdId] else []) := by
  have hkeep : ∀ info : DomainInfo,
      DomainInfo.domainId
          { info with cmdRiskArray := storeCmdRisk cmdId info.cmdRiskArray } =
        info.domainId := fun _ => rfl
  unfold extendGet addCmdRiskControl
  rw [SlotTable.find_update hkeep]
  by_cases heq : other = domainId
  · simp [heq, storeCmds]
  · simp [heq, Ne.symm heq, storeCmds]

theorem storeCmds_append
    (info : DomainInfo) (first second : List ℕ) :
    storeCmds (storeCmds info first) second =
      storeCmds info (first ++ second) := by
  simp [storeCmds]

/-- The inner loop stores the commands below the number of domains. -/
theorem addDomainCmds_entry
    (domainSize : ℕ) (entry : RiskEntry) (domainId : ℕ)
    (kernelDomains : List DomainInfo) :
    addDomainCmds domainSize entry.json.2 domainId kernelDomains =
      (entry.cmdIds.take domainSize).foldl
        (fun domains cmdId => addCmdRiskControl domainId cmdId domains)
        kernelDomains := by
  unfold addDomainCmds
  rw [ScanLoops.foldl_range_visit]
  simp only [RiskEntry.json, RiskEntry.cmdIds, BscJson.children_array,
    List.map_map, ← List.map_take, List.foldl_map, Function.comp_apply,
    BscJson.valueint]

theorem extendGet_foldl_addCmd
    (domainId other : ℕ) (cmdIds : List ℕ) (kernelDomains : List DomainInfo) :
    extendGet other
        (cmdIds.foldl
          (fun domains cmdId => addCmdRiskControl domainId cmdId domains)
          kernelDomains) =
      (extendGet other kernelDomains).map fun info =>
        storeCmds info (if domainId = other then cmdIds else []) := by
  induction cmdIds generalizing kernelDomains with
  | nil => simp [storeCmds]
  | cons cmdId rest ih =>
      rw [List.foldl_cons, ih, extendGet_addCmdRiskControl, Option.map_map]
      congr 1
      funext info
      rw [Function.comp_apply, storeCmds_append]
      by_cases heq : domainId = other <;> simp [heq]

/-- The outer loop's body on an entry. -/
theorem extendGet_addRiskDomain
    (domainSize other : ℕ) (acc : ℕ × List DomainInfo) (entry : RiskEntry) :
    extendGet other
        (addRiskDomain domainSize acc (some entry.json.1, entry.json.2)).2 =
      (extendGet other acc.2).map fun info =>
        storeCmds
          (raiseDomainRisk info
            (entry.domainId == other && entry.commands.isEmpty))
          (reachedCmds domainSize [entry] other) := by
  unfold addRiskDomain
  have hsize : entry.json.2.getArraySize = entry.commands.length := by
    simp [RiskEntry.json]
  rw [hsize]
  by_cases hempty : entry.commands.length = 0
  · have hnil : entry.commands = [] := List.length_eq_zero_iff.mp hempty
    simp [hnil, extendGet_addDomainRiskControl, reachedCmds, RiskEntry.cmdIds,
      storeCmds, RiskEntry.json, RiskEntry.domainId]
  · have hcons : entry.commands.isEmpty = false := by
      simpa [List.isEmpty_iff] using hempty
    have hcmds := addDomainCmds_entry domainSize entry entry.domainId acc.2
    rw [if_neg hempty]
    change extendGet other
      (addDomainCmds domainSize entry.json.2 entry.domainId acc.2) = _
    simp [hcmds, extendGet_foldl_addCmd, hcons, reachedCmds, raiseDomainRisk]

/-- The whole outer loop. -/
theorem extendGet_foldl_addRiskDomain
    (domainSize other : ℕ) (entries : List RiskEntry)
    (acc : ℕ × List DomainInfo) :
    extendGet other
        (entries.foldl
          (fun acc entry =>
            addRiskDomain domainSize acc (some entry.json.1, entry.json.2))
          acc).2 =
      (extendGet other acc.2).map fun info =>
        storeCmds
          (raiseDomainRisk info
            (entries.any fun entry =>
              entry.domainId == other && entry.commands.isEmpty))
          (reachedCmds domainSize entries other) := by
  induction entries generalizing acc with
  | nil => simp [storeCmds, raiseDomainRisk, reachedCmds]
  | cons entry rest ih =>
      rw [List.foldl_cons, ih, extendGet_addRiskDomain, Option.map_map]
      congr 1
      funext info
      have hreached : reachedCmds domainSize (entry :: rest) other =
          reachedCmds domainSize [entry] other ++
            reachedCmds domainSize rest other := by
        simp [reachedCmds]
      rw [Function.comp_apply, List.any_cons, hreached, ← storeCmds_append]
      congr 1
      cases entry.domainId == other && entry.commands.isEmpty <;>
        cases (rest.any fun entry =>
          entry.domainId == other && entry.commands.isEmpty) <;>
        simp [raiseDomainRisk, storeCmds]

section Runs

variable {parse : List UInt8 → Option BscJson}

theorem busHandleDevRisk_document
    (document : RiskDocument parse) (kernelDomains : List DomainInfo) :
    (busHandleDevRisk parse document.submsg kernelDomains).2 =
      (document.entries.foldl
        (fun acc entry => addRiskDomain document.entries.length acc
          (some entry.json.1, entry.json.2))
        (0, kernelDomains)).2 := by
  have hparsed := document.parsed
  rw [Option.bind_eq_some_iff] at hparsed
  obtain ⟨buf, hbuf, hroot⟩ := hparsed
  unfold busHandleDevRisk
  rw [hbuf]
  simp only [hroot, document.risk_eq, Option.getD_some,
    BscJson.getArraySize_object, List.length_map]
  have hlength : document.entries.length =
      (BscJson.object
        (document.entries.map RiskEntry.json)).children.length := by
    simp
  conv_lhs => rw [hlength, ScanLoops.foldl_range_visit_length]
  simp [List.foldl_map]

/-! ## Runs of messages -/

structure RiskState (parse : List UInt8 → Option BscJson) where
  kernelDomains : List DomainInfo
  handled : List (RiskDocument parse)

/-- A table in which modules have been registered and no risk message has
been handled. -/
def RiskState.start (cmdMax : ℕ) (kernelExtends : List KernelExtend) :
    RiskState parse where
  kernelDomains := kernelExtends.map fun kernelExtend =>
    { DomainInfo.zero cmdMax with kernelExtend := kernelExtend }
  handled := []

def RiskState.step (state : RiskState parse) (document : RiskDocument parse) :
    Option (RiskState parse) :=
  some
    { kernelDomains :=
        (busHandleDevRisk parse document.submsg state.kernelDomains).2
      handled := state.handled ++ [document] }

/-- The slot that is found for the domain holds a registration. -/
def Registered (kernelDomains : List DomainInfo) (domainId : ℕ) : Prop :=
  (extendGet domainId kernelDomains).bind domainRoute ≠ none

instance (kernelDomains : List DomainInfo) (domainId : ℕ) :
    Decidable (Registered kernelDomains domainId) :=
  inferInstanceAs (Decidable (_ ≠ none))

/-- Exactly the restricted commands of registered domains are blocked, and
nothing that is exempt. -/
structure RiskState.Enforced (state : RiskState parse) : Prop where
  exempt : ∀ domainId cmdId, riskExempt domainId cmdId →
    checkCmdRiskControl state.kernelDomains domainId cmdId = .allowed
  blocked_iff : ∀ domainId cmdId,
    Registered state.kernelDomains domainId → ¬ riskExempt domainId cmdId →
    (checkCmdRiskControl state.kernelDomains domainId cmdId ≠ .allowed ↔
      whollyListed state.handled domainId = true ∨
        CmdListed state.handled domainId cmdId)

/-- Every listed command of a registered domain that is not blocked as a
whole was reached by the inner loop while a cell of the domain was free:
it is among the first `cmdMax` reached ones, repetitions counted. -/
def AllStored (cmdMax : ℕ) (kernelExtends : List KernelExtend)
    (documents : List (RiskDocument parse)) : Prop :=
  ∀ domainId cmdId,
    Registered
      (RiskState.start cmdMax kernelExtends : RiskState parse).kernelDomains
      domainId →
    ¬ riskExempt domainId cmdId →
    whollyListed documents domainId = false →
    CmdListed documents domainId cmdId →
    cmdId ∈ (reachedOver documents domainId).take cmdMax

/-- What the table holds for a domain after the given messages. -/
def riskInfo (cmdMax : ℕ) (documents : List (RiskDocument parse))
    (domainId : ℕ) (kernelExtend : KernelExtend) : DomainInfo where
  domainRisk :=
    if whollyListed documents domainId then .riskControl else .noRiskControl
  cmdRiskArray := paddedCells cmdMax (reachedOver documents domainId)
  kernelExtend := kernelExtend

/-- The invariant: for each domain the table holds what the messages say. -/
def RiskState.Stored (cmdMax : ℕ) (kernelExtends : List KernelExtend)
    (state : RiskState parse) : Prop :=
  ∀ domainId, extendGet domainId state.kernelDomains =
    (SlotTable.find KernelExtend.domainId domainId kernelExtends).map
      (riskInfo cmdMax state.handled domainId)

theorem reachedCmds_ne_zero
    (document : RiskDocument parse) (domainId : ℕ) :
    ∀ cell ∈ reachedCmds document.entries.length document.entries domainId,
      cell ≠ 0 := by
  intro cell hmem
  simp only [reachedCmds, List.mem_flatMap] at hmem
  obtain ⟨entry, hentry, hcell⟩ := hmem
  split at hcell
  · exact document.cmd_ne_zero entry hentry cell (List.mem_of_mem_take hcell)
  · simp at hcell

theorem reachedOver_ne_zero
    (documents : List (RiskDocument parse)) (domainId : ℕ) :
    ∀ cell ∈ reachedOver documents domainId, cell ≠ 0 := by
  intro cell hmem
  simp only [reachedOver, List.mem_flatMap] at hmem
  obtain ⟨document, -, hcell⟩ := hmem
  exact reachedCmds_ne_zero document domainId cell hcell

/-- Only listed commands are reached. -/
theorem cmdListed_of_reachedOver
    {documents : List (RiskDocument parse)} {domainId cmdId : ℕ}
    (hmem : cmdId ∈ reachedOver documents domainId) :
    CmdListed documents domainId cmdId := by
  simp only [reachedOver, reachedCmds, List.mem_flatMap] at hmem
  obtain ⟨document, hdocument, entry, hentry, hcell⟩ := hmem
  split at hcell
  · next hdomain =>
      exact ⟨document, hdocument, entry, hentry, hdomain,
        List.mem_of_mem_take hcell⟩
  · simp at hcell

theorem RiskState.start_stored
    (cmdMax : ℕ) (kernelExtends : List KernelExtend) :
    (RiskState.start cmdMax kernelExtends : RiskState parse).Stored cmdMax
      kernelExtends := by
  intro domainId
  have hfresh : ∀ kernelExtend,
      riskInfo cmdMax ([] : List (RiskDocument parse)) domainId kernelExtend =
        { DomainInfo.zero cmdMax with kernelExtend := kernelExtend } := by
    intro kernelExtend
    simp [riskInfo, whollyListed, reachedOver, paddedCells, DomainInfo.zero]
  simp only [extendGet, RiskState.start, SlotTable.find_map]
  congr 1
  funext kernelExtend
  exact (hfresh kernelExtend).symm

theorem RiskState.Stored.step
    {cmdMax : ℕ} {kernelExtends : List KernelExtend}
    {state next : RiskState parse} {document : RiskDocument parse}
    (hinv : state.Stored cmdMax kernelExtends)
    (hstep : state.step document = some next) :
    next.Stored cmdMax kernelExtends := by
  simp only [RiskState.step, Option.some.injEq] at hstep
  subst hstep
  intro domainId
  simp only [busHandleDevRisk_document, extendGet_foldl_addRiskDomain,
    hinv domainId, Option.map_map]
  congr 1
  funext kernelExtend
  have hcells :
      (reachedCmds document.entries.length document.entries domainId).foldl
          (fun cells cmdId => storeCmdRisk cmdId cells)
          (paddedCells cmdMax (reachedOver state.handled domainId)) =
        paddedCells cmdMax
          (reachedOver (state.handled ++ [document]) domainId) := by
    rw [foldl_storeCmdRisk_padded (reachedOver_ne_zero state.handled domainId)
      (reachedCmds_ne_zero document domainId)]
    simp [reachedOver]
  have hwholly : whollyListed (state.handled ++ [document]) domainId =
      (whollyListed state.handled domainId ||
        document.entries.any fun entry =>
          entry.domainId == domainId && entry.commands.isEmpty) := by
    simp [whollyListed]
  simp only [Function.comp_apply, storeCmds, riskInfo, hwholly]
  cases document.entries.any fun entry =>
      entry.domainId == domainId && entry.commands.isEmpty <;>
    simp [raiseDomainRisk, hcells]

/-- A registered domain keeps its registration. -/
theorem RiskState.Stored.registered_iff
    {cmdMax : ℕ} {kernelExtends : List KernelExtend}
    {state : RiskState parse} (hinv : state.Stored cmdMax kernelExtends)
    (domainId : ℕ) :
    Registered state.kernelDomains domainId ↔
      Registered
        (RiskState.start cmdMax kernelExtends :
          RiskState parse).kernelDomains domainId := by
  have hstart : (RiskState.start cmdMax kernelExtends :
      RiskState parse).Stored cmdMax kernelExtends :=
    RiskState.start_stored cmdMax kernelExtends
  unfold Registered
  rw [hinv domainId, hstart domainId]
  cases SlotTable.find KernelExtend.domainId domainId kernelExtends <;>
    simp [riskInfo, domainRoute]

/-- What the check blocks, in terms of the reached commands. -/
theorem RiskState.Stored.blocked_iff
    {cmdMax : ℕ} {kernelExtends : List KernelExtend}
    {state : RiskState parse} (hinv : state.Stored cmdMax kernelExtends)
    {domainId cmdId : ℕ}
    (hregistered : Registered state.kernelDomains domainId)
    (hexempt : ¬ riskExempt domainId cmdId) :
    checkCmdRiskControl state.kernelDomains domainId cmdId ≠ .allowed ↔
      whollyListed state.handled domainId = true ∨
        cmdId ∈ (reachedOver state.handled domainId).take cmdMax := by
  unfold Registered at hregistered
  unfold checkCmdRiskControl
  rw [hinv domainId] at hregistered ⊢
  rw [if_neg hexempt]
  cases hfind :
      SlotTable.find KernelExtend.domainId domainId kernelExtends with
  | none => simp [hfind] at hregistered
  | some kernelExtend =>
      have hlisted :
          cmdListed cmdId
              (paddedCells cmdMax (reachedOver state.handled domainId)) =
            true ↔
          cmdId ∈ (reachedOver state.handled domainId).take cmdMax :=
        cmdListed_padded (reachedOver_ne_zero state.handled domainId)
      cases hwholly : whollyListed state.handled domainId with
      | true => simp [riskInfo, hwholly]
      | false =>
          by_cases hcmd : cmdListed cmdId
              (paddedCells cmdMax (reachedOver state.handled domainId)) = true
          · have hmem := hlisted.mp hcmd
            simp [riskInfo, hwholly, hcmd, hmem]
          · have hmem := mt hlisted.mpr hcmd
            simp only [Bool.not_eq_true] at hcmd
            simp [riskInfo, hwholly, hcmd, hmem]

theorem RiskState.Stored.enforced_iff
    {cmdMax : ℕ} {kernelExtends : List KernelExtend}
    {state : RiskState parse} (hinv : state.Stored cmdMax kernelExtends) :
    state.Enforced ↔ AllStored cmdMax kernelExtends state.handled := by
  constructor
  · intro henforced domainId cmdId hregistered hexempt hwholly hlisted
    rw [← hinv.registered_iff] at hregistered
    have hblocked :=
      (henforced.blocked_iff domainId cmdId hregistered hexempt).mpr
        (Or.inr hlisted)
    rcases (hinv.blocked_iff hregistered hexempt).mp hblocked with
      hall | hmem
    · simp [hwholly] at hall
    · exact hmem
  · intro hstored
    constructor
    · intro domainId cmdId hexempt
      simp [checkCmdRiskControl, hexempt]
    · intro domainId cmdId hregistered hexempt
      rw [hinv.blocked_iff hregistered hexempt]
      constructor
      · rintro (hall | hmem)
        · exact Or.inl hall
        · exact Or.inr (cmdListed_of_reachedOver (List.mem_of_mem_take hmem))
      · intro hspec
        cases hwholly : whollyListed state.handled domainId with
        | true => exact Or.inl rfl
        | false =>
            rw [hwholly] at hspec
            have hlisted : CmdListed state.handled domainId cmdId := by
              simpa using hspec
            rw [hinv.registered_iff] at hregistered
            exact Or.inr
              (hstored domainId cmdId hregistered hexempt hwholly hlisted)

theorem RiskState.exec_handled
    {state final : RiskState parse} {documents : List (RiskDocument parse)}
    (hexec : StepSystem.exec RiskState.step state documents = some final) :
    final.handled = state.handled ++ documents := by
  induction documents generalizing state with
  | nil =>
      simp only [StepSystem.exec_nil, Option.some.injEq] at hexec
      simp [hexec]
  | cons document rest ih =>
      rw [StepSystem.exec_cons] at hexec
      simpa using ih hexec

theorem RiskState.exec_isSome
    (state : RiskState parse) (documents : List (RiskDocument parse)) :
    ∃ final, StepSystem.exec RiskState.step state documents = some final := by
  induction documents generalizing state with
  | nil => exact ⟨state, rfl⟩
  | cons document rest ih =>
      rw [StepSystem.exec_cons]
      exact ih _

/-- Over every sequence of messages the policy is enforced after each of them
exactly if after each of them every listed command is stored. -/
theorem RiskState.enforced_iff_allStored
    (cmdMax : ℕ) (kernelExtends : List KernelExtend)
    (documents : List (RiskDocument parse)) :
    StepSystem.Along RiskState.step RiskState.Enforced
        (RiskState.start cmdMax kernelExtends) documents ↔
      ∀ handled later, documents = handled ++ later →
        AllStored cmdMax kernelExtends handled := by
  have hstored : ∀ state : RiskState parse,
      state.Stored cmdMax kernelExtends →
      ∀ handled, StepSystem.Along RiskState.step
        (RiskState.Stored cmdMax kernelExtends) state handled :=
    fun state hstart handled =>
      StepSystem.along_of_invariant (fun _ _ _ hinv => hinv.step) handled hstart
  have hreached : ∀ (handled : List (RiskDocument parse))
      (middle : RiskState parse),
      StepSystem.exec RiskState.step (RiskState.start cmdMax kernelExtends)
        handled = some middle →
      (middle.Enforced ↔ AllStored cmdMax kernelExtends handled) := by
    intro handled middle hexec
    have hinv := hstored _ (RiskState.start_stored cmdMax kernelExtends)
      handled handled [] middle (by simp) hexec
    have hhandled : middle.handled = handled := by
      simpa [RiskState.start] using RiskState.exec_handled hexec
    rw [hinv.enforced_iff, hhandled]
  constructor
  · intro halong handled later hsplit
    obtain ⟨middle, hexec⟩ :=
      RiskState.exec_isSome (RiskState.start cmdMax kernelExtends) handled
    exact (hreached handled middle hexec).mp
      (halong handled later middle hsplit hexec)
  · intro hall handled later middle hsplit hexec
    exact (hreached handled middle hexec).mpr (hall handled later hsplit)

end Runs

/-! ## A message that is not enforced -/

/-- A message that restricts two commands of one domain. -/
def twoCommandsRoot : BscJson :=
  .object [("risk".toList,
    .object [("2000".toList, .array [.number 1, .number 2])])]

def twoCommands : RiskDocument fun _ => some twoCommandsRoot where
  submsg :=
    { msgSeq := 1
      buf := some []
      msgDomainId := 1000
      msgCommandId := 0x2805
      commandVer := [] }
  root := twoCommandsRoot
  entries := [⟨"2000".toList, [1, 2]⟩]
  parsed := rfl
  risk_eq := rfl
  cmd_ne_zero := by decide

def someDomain : KernelExtend where
  domainId := 2000
  extendStart := some 1
  extendStop := some 2
  extendDataRoute := some 3
  extendEvent := some 4
  pUser := none
  extendModuleName := []
  extendModuleVersion := []

/-- The second command of the only domain of a message is not blocked. -/
theorem second_command_not_blocked :
    ¬ StepSystem.Along RiskState.step RiskState.Enforced
        (RiskState.start 64 [someDomain]) [twoCommands] := by
  intro halong
  have henforced := halong [twoCommands] [] _ rfl rfl
  have hlisted : CmdListed [twoCommands] 2000 2 :=
    ⟨twoCommands, by simp, _, List.mem_singleton_self _, by decide, by decide⟩
  have hblocked := (henforced.blocked_iff 2000 2 (by decide)
    (by decide)).mpr (Or.inr hlisted)
  exact hblocked (by decide)

end EziotSdk
