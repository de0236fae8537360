import EziotSdk.BscJson
import EziotSdk.ExtendDispatch
import EziotSdk.RiskControl
import EziotSdk.ScanLoops

/-!
# The cloud's risk policy

`bus_handle_dev_risk` reads a document with the domains to be restricted and
the commands of each, and stores them in the table of domains, where they
accumulate over the messages of a run.
-/

namespace EziotSdk

/-- The conversion of an `int` to an unsigned 32-bit parameter. -/
def toUint32 (value : ℤ) : ℕ := (value % 2 ^ 32).toNat

/-- The inner loop.  It runs to the number of domains of the message, not to
the number of commands of the domain. -/
def addDomainCmds (domainSize : ℕ) (jsonDomain : BscJson) (domainId : ℕ)
    (kernelDomains : List DomainInfo) : List DomainInfo :=
  (List.range domainSize).foldl
    (ScanLoops.visit
      (fun domains child =>
        addCmdRiskControl domainId (toUint32 child.2.valueint) domains)
      jsonDomain.children)
    kernelDomains

/-- The body of the outer loop.  A domain without a name keeps the id of the
domain before it. -/
def addRiskDomain (domainSize : ℕ) (acc : ℕ × List DomainInfo)
    (child : Option CString × BscJson) : ℕ × List DomainInfo :=
  let domainId :=
    match child.1 with
    | some name => toUint32 (CString.atoi name)
    | none => acc.1
  if child.2.getArraySize = 0 then
    (domainId, addDomainRiskControl domainId acc.2)
  else (domainId, addDomainCmds domainSize child.2 domainId acc.2)

/-- `bus_handle_dev_risk`, over the parser that is used on the buffer. -/
def busHandleDevRisk (parse : List UInt8 → Option BscJson)
    (submsg : KernelSubmsg) (kernelDomains : List DomainInfo) :
    MkernelInternalError × List DomainInfo :=
  match submsg.buf with
  | none => (.revInvalidPacket, kernelDomains)
  | some buf =>
      match parse buf with
      | none => (.jsonParseError, kernelDomains)
      | some jsonRoot =>
          let jsonRiskArray := (jsonRoot.getObjectItem "risk".toList).getD .null
          let domainSize := jsonRiskArray.getArraySize
          (.succ,
            ((List.range domainSize).foldl
              (ScanLoops.visit (addRiskDomain domainSize)
                jsonRiskArray.children)
              (0, kernelDomains)).2)

/-! ## Well-formed messages and what they list -/

/-- One domain of a message: its name and the numbers in its list. -/
structure RiskEntry where
  name : CString
  commands : List ℚ

namespace RiskEntry

def json (entry : RiskEntry) : CString × BscJson :=
  (entry.name, .array (entry.commands.map .number))

def domainId (entry : RiskEntry) : ℕ :=
  toUint32 (CString.atoi entry.name)

def cmdIds (entry : RiskEntry) : List ℕ :=
  entry.commands.map fun command => toUint32 (BscJson.saturate command)

end RiskEntry

/-- A risk-control message: it parses to a document whose `risk` member lists
domains with their commands, and no command id is zero. -/
structure RiskDocument (parse : List UInt8 → Option BscJson) where
  submsg : KernelSubmsg
  root : BscJson
  entries : List RiskEntry
  parsed : submsg.buf.bind parse = some root
  risk_eq : root.getObjectItem "risk".toList =
    some (.object (entries.map RiskEntry.json))
  cmd_ne_zero : ∀ entry ∈ entries, ∀ cmdId ∈ entry.cmdIds, cmdId ≠ 0

section Listed

variable {parse : List UInt8 → Option BscJson}

/-- Some message lists the domain with an empty list of commands. -/
def whollyListed (documents : List (RiskDocument parse)) (domainId : ℕ) :
    Bool :=
  documents.any fun document =>
    document.entries.any fun entry =>
      entry.domainId == domainId && entry.commands.isEmpty

/-- Some message lists the command for the domain. -/
def CmdListed (documents : List (RiskDocument parse))
    (domainId cmdId : ℕ) : Prop :=
  ∃ document ∈ documents, ∃ entry ∈ document.entries,
    entry.domainId = domainId ∧ cmdId ∈ entry.cmdIds

/-- The commands of a domain that the inner loop reaches in one message, in
order: of each list only as many as the message has domains. -/
def reachedCmds (domainSize : ℕ) (entries : List RiskEntry)
    (domainId : ℕ) : List ℕ :=
  entries.flatMap fun entry =>
    if entry.domainId = domainId then entry.cmdIds.take domainSize else []

/-- The commands of a domain that the inner loop reaches over the run. -/
def reachedOver (documents : List (RiskDocument parse)) (domainId : ℕ) :
    List ℕ :=
  documents.flatMap fun document =>
    reachedCmds document.entries.length document.entries domainId

end Listed

/-! ## The cells of one domain -/

/-- The array that holds the given commands in its first cells. -/
def paddedCells (cmdMax : ℕ) (stored : List ℕ) : List ℕ :=
  stored.take cmdMax ++ List.replicate (cmdMax - stored.length) 0

theorem storeCmdRisk_append
    {cmdId : ℕ} {stored rest : List ℕ}
    (hstored : ∀ cell ∈ stored, cell ≠ 0) :
    storeCmdRisk cmdId (stored ++ rest) =
      stored ++ storeCmdRisk cmdId rest := by
  induction stored with
  | nil => rfl
  | cons cell more ih =>
      have hcell : cell ≠ 0 := hstored cell (by simp)
      rw [List.cons_append, storeCmdRisk, if_neg hcell,
        ih (fun other hmem => hstored other (by simp [hmem])),
        List.cons_append]

theorem storeCmdRisk_padded
    {cmdMax cmdId : ℕ} {stored : List ℕ}
    (hstored : ∀ cell ∈ stored, cell ≠ 0) :
    storeCmdRisk cmdId (paddedCells cmdMax stored) =
      paddedCells cmdMax (stored ++ [cmdId]) := by
  have htake : ∀ cell ∈ stored.take cmdMax, cell ≠ 0 :=
    fun cell hmem => hstored cell (List.mem_of_mem_take hmem)
  unfold paddedCells
  rw [storeCmdRisk_append htake]
  by_cases hroom : stored.length < cmdMax
  · obtain ⟨free, hfree⟩ : ∃ free, cmdMax - stored.length = free + 1 :=
      ⟨cmdMax - stored.length - 1, by omega⟩
    have hnext : cmdMax - (stored ++ [cmdId]).length = free := by
      simp
      omega
    rw [hfree, hnext, List.replicate_succ, storeCmdRisk, if_pos rfl,
      List.take_of_length_le (by omega),
      List.take_of_length_le (by simp; omega)]
    simp
  · have hfull : cmdMax - stored.length = 0 := by omega
    have hnext : cmdMax - (stored ++ [cmdId]).length = 0 := by
      simp
      omega
    rw [hfull, hnext, List.take_append_of_le_length (by omega)]
    rfl

theorem foldl_storeCmdRisk_padded
    {cmdMax : ℕ} {stored more : List ℕ}
    (hstored : ∀ cell ∈ stored, cell ≠ 0) (hmore : ∀ cell ∈ more, cell ≠ 0) :
    more.foldl (fun cells cmdId => storeCmdRisk cmdId cells)
        (paddedCells cmdMax stored) =
      paddedCells cmdMax (stored ++ more) := by
  induction more generalizing stored with
  | nil => simp
  | cons cmdId rest ih =>
      rw [List.foldl_cons, storeCmdRisk_padded hstored, ih]
      · simp
      · intro cell hmem
        rcases List.mem_append.mp hmem with hold | hnew
        · exact hstored cell hold
        · exact hmore cell (by simp_all)
      · exact fun cell hmem => hmore cell (by simp [hmem])

theorem cmdListed_append
    {cmdId : ℕ} {stored : List ℕ} (hstored : ∀ cell ∈ stored, cell ≠ 0)
    (free : ℕ) :
    cmdListed cmdId (stored ++ List.replicate free 0) = true ↔
      cmdId ∈ stored := by
  induction stored with
  | nil => cases free <;> simp [cmdListed, List.replicate_succ]
  | cons cell rest ih =>
      have hcell : cell ≠ 0 := hstored cell (by simp)
      have hrest := ih fun other hmem => hstored other (by simp [hmem])
      by_cases heq : cmdId = cell
      · simp [cmdListed, hcell, heq]
      · simp [cmdListed, hcell, heq, hrest]

theorem cmdListed_padded
    {cmdMax cmdId : ℕ} {stored : List ℕ}
    (hstored : ∀ cell ∈ stored, cell ≠ 0) :
    cmdListed cmdId (paddedCells cmdMax stored) = true ↔
      cmdId ∈ stored.take cmdMax :=
  cmdListed_append
    (fun cell hmem => hstored cell (List.mem_of_mem_take hmem)) _

end EziotSdk
