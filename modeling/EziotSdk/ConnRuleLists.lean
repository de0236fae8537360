import EziotSdk.ConnRules

/-!
# Which linkage rules are accepted

The list of actions is read up to its first entry that declares none, and what
that entry is decides about the rule.
-/

namespace EziotSdk

namespace ConnEnv

variable {env : ConnEnv}

/-! ## The list of actions -/

/-- Some entries are read as records. -/
def ReadAs (env : ConnEnv) (items : List BscJson)
    (infos : List ConnThenInfo) : Prop :=
  List.Forall₂ (fun item info => ∃ action value,
    env.Declares item action value ∧ info = action.kept (some value)) items
    infos

theorem exists_readAs {items : List BscJson}
    (hall : ∀ item ∈ items, ∃ action value,
      env.Declares item action value) :
    ∃ infos, env.ReadAs items infos := by
  induction items with
  | nil => exact ⟨[], List.Forall₂.nil⟩
  | cons item rest ih =>
      rcases hall item List.mem_cons_self with ⟨action, value, hdeclares⟩
      rcases ih (fun later hlater =>
        hall later (List.mem_cons_of_mem _ hlater)) with ⟨infos, hinfos⟩
      exact ⟨_, List.Forall₂.cons ⟨action, value, hdeclares, rfl⟩ hinfos⟩

/-- The loop after some entries that are read. -/
theorem parseThenInfos_append {before : List BscJson}
    {infos : List ConnThenInfo} (hbefore : env.ReadAs before infos)
    (rest : List BscJson) :
    env.parseThenInfos (before ++ rest) =
      (env.parseThenInfos rest).map fun result =>
        (result.1, infos ++ result.2) := by
  induction hbefore with
  | nil =>
      cases hrest : env.parseThenInfos rest with
      | error fault => simp [hrest, Except.map]
      | ok result => simp [hrest, Except.map]
  | @cons item info items later hread _ ih =>
      rcases hread with ⟨action, value, hdeclares, rfl⟩
      rcases object_of_declares hdeclares with ⟨members, rfl⟩
      rw [List.cons_append, parseThenInfos, parseThenInfo_of_declares hdeclares]
      change (do
        let result ← env.parseThenInfos (items ++ rest)
        pure (result.1, action.kept (some value) :: result.2)) = _
      rw [ih]
      cases env.parseThenInfos rest with
      | error fault => rfl
      | ok result => rfl

/-- All entries are read, or there is a first one that is not. -/
theorem readAs_or_split (env : ConnEnv) (items : List BscJson) :
    (∃ infos, env.ReadAs items infos) ∨
      ∃ before item after infos, items = before ++ item :: after ∧
        env.ReadAs before infos ∧
        ∀ action value, ¬ env.Declares item action value := by
  induction items with
  | nil => exact Or.inl ⟨[], List.Forall₂.nil⟩
  | cons item rest ih =>
      by_cases hitem : ∃ action value, env.Declares item action value
      · rcases hitem with ⟨action, value, hdeclares⟩
        have hread : ∃ action' value', env.Declares item action' value' ∧
            action.kept (some value) = action'.kept (some value') :=
          ⟨action, value, hdeclares, rfl⟩
        rcases ih with ⟨infos, hinfos⟩ |
          ⟨before, bad, after, infos, hrest, hinfos, hbad⟩
        · exact Or.inl ⟨_, List.Forall₂.cons hread hinfos⟩
        · right
          exact ⟨item :: before, bad, after, _, by rw [hrest]; rfl,
            List.Forall₂.cons hread hinfos, hbad⟩
      · right
        refine ⟨[], item, rest, [], rfl, List.Forall₂.nil, ?_⟩
        intro action value hdeclares
        exact hitem ⟨action, value, hdeclares⟩

theorem ReadAs.declares {items : List BscJson} {infos : List ConnThenInfo}
    (hread : env.ReadAs items infos) :
    ∀ item ∈ items, ∃ action value, env.Declares item action value := by
  induction hread with
  | nil => exact fun item hitem => absurd hitem List.not_mem_nil
  | @cons item info items infos hhead _ ih =>
      rcases hhead with ⟨action, value, hdeclares, -⟩
      intro other hother
      rcases List.mem_cons.mp hother with rfl | hlater
      · exact ⟨action, value, hdeclares⟩
      · exact ih other hlater

theorem ReadAs.valued {items : List BscJson} {infos : List ConnThenInfo}
    (hread : env.ReadAs items infos) :
    ∀ info ∈ infos, info.connValue.isSome = true := by
  induction hread with
  | nil => exact fun info hinfo => absurd hinfo List.not_mem_nil
  | @cons item info items infos hhead _ ih =>
      rcases hhead with ⟨action, value, -, rfl⟩
      intro other hother
      rcases List.mem_cons.mp hother with rfl | hlater
      · rfl
      · exact ih other hlater

end ConnEnv

/-! ## The blocks -/

theorem valueBlocks_append (index : ℕ) (first last : List ConnThenInfo) :
    valueBlocks index (first ++ last) =
      valueBlocks index first ++ valueBlocks (index + first.length) last := by
  induction first generalizing index with
  | nil => rfl
  | cons info rest ih =>
      rw [List.cons_append, valueBlocks, valueBlocks, ih, List.append_assoc,
        List.length_cons, Nat.add_right_comm, Nat.add_assoc]

theorem valueBlocks_of_none {infos : List ConnThenInfo}
    (hnone : ∀ info ∈ infos, info.connValue = none) (index : ℕ) :
    valueBlocks index infos = [] := by
  induction infos generalizing index with
  | nil => rfl
  | cons info rest ih =>
      rw [valueBlocks, hnone info List.mem_cons_self,
        ih fun later hlater => hnone later (List.mem_cons_of_mem _ hlater)]
      rfl

theorem length_valueBlocks {infos : List ConnThenInfo}
    (hsome : ∀ info ∈ infos, info.connValue.isSome = true) (index : ℕ) :
    (valueBlocks index infos).length = infos.length := by
  induction infos generalizing index with
  | nil => rfl
  | cons info rest ih =>
      rw [valueBlocks, hsome info List.mem_cons_self, if_pos rfl,
        List.length_append, List.length_cons, List.length_nil,
        ih fun later hlater => hsome later (List.mem_cons_of_mem _ hlater),
        List.length_cons, Nat.add_comm]

/-- The values of the first entries are all values when all that have one are
among them. -/
theorem take_perm_iff {infos cleared : List ConnThenInfo}
    (hsome : ∀ info ∈ infos, info.connValue.isSome = true)
    (hnone : ∀ info ∈ cleared, info.connValue = none) (size : ℕ) :
    (valueBlocks 0 ((infos ++ cleared).take size)).Perm
        (valueBlocks 0 (infos ++ cleared)) ↔
      infos.length ≤ size := by
  have hclearedTake : ∀ info ∈ cleared.take (size - infos.length),
      info.connValue = none :=
    fun info hinfo => hnone info (List.mem_of_mem_take hinfo)
  rw [List.take_append, valueBlocks_append, valueBlocks_append,
    valueBlocks_of_none hnone, valueBlocks_of_none hclearedTake,
    List.append_nil, List.append_nil]
  constructor
  · intro hperm
    have hlength := hperm.length_eq
    rw [length_valueBlocks (fun info hinfo =>
        hsome info (List.mem_of_mem_take hinfo)), length_valueBlocks hsome,
      List.length_take] at hlength
    omega
  · intro hle
    rw [List.take_of_length_le hle]

/-! ## What the record holds -/

theorem copied_eq_self {size : ℕ} (hsize : 0 < size) (text : CString) :
    (CString.Buffer.copied hsize text).1 = text ↔ text.length < size := by
  rw [CString.Buffer.copied, CString.strncpy_eq_self]
  omega

theorem bmod_byte_eq_self (count : ℤ) :
    count.bmod 256 = count ↔ -128 ≤ count ∧ count < 128 := by
  constructor
  · intro hsame
    have hge := Int.le_bmod (x := count) (m := 256) (by decide)
    have hlt := Int.bmod_lt (x := count) (m := 256) (by decide)
    omega
  · rintro ⟨hge, hlt⟩
    exact Int.bmod_eq_of_le (by omega) (by omega)

theorem ConnAction.heldBy_kept_iff (action : ConnAction)
    (value : ConnValue) :
    action.HeldBy value (action.kept (some value)) ↔ action.Fits := by
  constructor
  · intro hheld
    rcases (bmod_byte_eq_self _).mp hheld.id with ⟨hge, hlt⟩
    exact {
      id_ge := hge
      id_lt := hlt
      actionType :=
        (copied_eq_self sixteen_pos _).mp hheld.actionType
      actionTarget :=
        (copied_eq_self fortyEight_pos _).mp hheld.actionTarget
      localIndex :=
        (copied_eq_self eight_pos _).mp hheld.localIndex
      domainIdentifier :=
        (copied_eq_self thirtyTwo_pos _).mp hheld.domainIdentifier
      identifier :=
        (copied_eq_self thirtyTwo_pos _).mp hheld.identifier }
  · intro hfits
    exact {
      id := (bmod_byte_eq_self _).mpr ⟨hfits.id_ge, hfits.id_lt⟩
      actionType :=
        (copied_eq_self sixteen_pos _).mpr hfits.actionType
      actionTarget :=
        (copied_eq_self fortyEight_pos _).mpr hfits.actionTarget
      localIndex :=
        (copied_eq_self eight_pos _).mpr hfits.localIndex
      domainIdentifier :=
        (copied_eq_self thirtyTwo_pos _).mpr hfits.domainIdentifier
      identifier :=
        (copied_eq_self thirtyTwo_pos _).mpr hfits.identifier
      connValue := rfl }

namespace ConnEnv

variable {env : ConnEnv}

/-- An entry has one record. -/
theorem kept_unique {item : BscJson} {first last : ConnAction}
    {firstValue lastValue : ConnValue}
    (hfirst : env.Declares item first firstValue)
    (hlast : env.Declares item last lastValue) :
    first.kept (some firstValue) = last.kept (some lastValue) := by
  have hsame := parseThenInfo_of_declares hfirst
  rw [parseThenInfo_of_declares hlast, Except.ok.injEq,
    Option.some.injEq] at hsame
  exact hsame.symm

theorem ReadAs.held_iff {items : List BscJson} {infos : List ConnThenInfo}
    (hread : env.ReadAs items infos) :
    List.Forall₂ (fun item info => ∃ action value,
        env.Declares item action value ∧ action.HeldBy value info)
        items infos ↔
      ∀ item ∈ items, ∃ action value,
        env.Declares item action value ∧ action.Fits := by
  induction hread with
  | nil => simp
  | @cons item info items infos hhead _ ih =>
      rcases hhead with ⟨action, value, hdeclares, rfl⟩
      rw [List.forall₂_cons, List.forall_mem_cons, ih]
      apply and_congr_left
      intro _
      apply exists_congr
      intro other
      apply exists_congr
      intro otherValue
      apply and_congr_right
      intro hother
      rw [kept_unique hdeclares hother, ConnAction.heldBy_kept_iff]

/-- A rule that is read up to its list of actions. -/
structure Parts (env : ConnEnv) (json : BscJson)
    (members : List (CString × BscJson)) (items : List BscJson)
    (baseInfo : ConnBaseInfo) (onInfo : ConnOnInfo) : Prop where
  base : parseBasePart json = .ok (some baseInfo)
  baseMembers : ∃ own, json.getObjectItem "ruleBaseInfoForDeviceTo".toList =
    some (.object own) ∧ BaseMembers (.object own)
  on : json.getObjectItem "onInfoForDeviceTo".toList = some (.object members)
  onInfo : env.parseOnInfo (.object members) = .ok (some onInfo)
  event : ∃ text value, env.EventHead (.object members) text ∧
    env.Reads text value
  items : json.getObjectItem "thenInfoQos".toList = some (.array items)

section

variable {json : BscJson} {members : List (CString × BscJson)}
  {items : List BscJson} {baseInfo : ConnBaseInfo} {onInfo : ConnOnInfo}

/-- The record of a rule with a list of actions. -/
def listed (items : List BscJson) (baseInfo : ConnBaseInfo)
    (onInfo : ConnOnInfo) (entries : List ConnThenInfo) : ConnInfo :=
  ⟨baseInfo, onInfo, (items.length : ℤ).bmod 256, some entries⟩

theorem Parts.connectivityParse_eq
    (hparts : env.Parts json members items baseInfo onInfo) :
    env.connectivityParse json =
      (env.parseThenInfos items).bind fun found =>
        if found.1 then .ok (.passed (listed items baseInfo onInfo found.2))
        else ConnOutcome.failed (listed items baseInfo onInfo found.2) := by
  have hon : objectMember "onInfoForDeviceTo".toList json =
      some (.object members) :=
    objectMember_eq_some.mpr ⟨members, hparts.on, rfl⟩
  rw [connectivityParse, hparts.base, hon]
  simp only [hparts.onInfo, hparts.items]
  cases env.parseThenInfos items with
  | error fault => rfl
  | ok found => rfl

theorem Parts.parse_eq
    (hparts : env.Parts json members items baseInfo onInfo)
    {parsed : Bool} {entries : List ConnThenInfo}
    (hlist : env.parseThenInfos items = .ok (parsed, entries)) :
    env.connectivityParse json =
      if parsed then .ok (.passed (listed items baseInfo onInfo entries))
      else ConnOutcome.failed (listed items baseInfo onInfo entries) := by
  rw [hparts.connectivityParse_eq, hlist]
  rfl

theorem Parts.parse_error
    (hparts : env.Parts json members items baseInfo onInfo)
    {fault : ConnFault} (hlist : env.parseThenInfos items = .error fault) :
    env.connectivityParse json = .error fault := by
  rw [hparts.connectivityParse_eq, hlist]
  rfl

theorem Parts.complete_iff
    (hparts : env.Parts json members items baseInfo onInfo) :
    env.Complete json ↔ EventLabels (.object members) ∧
      ∀ item ∈ items, ∃ action value, env.Declares item action value := by
  constructor
  · intro hcomplete
    rcases hcomplete.on with ⟨other, text, value, hother, -, -, hlabels⟩
    rcases hcomplete.actions with ⟨listed, hlisted, hall⟩
    have hmembers := hparts.on.symm.trans hother
    have hitems := hparts.items.symm.trans hlisted
    rw [Option.some.injEq, BscJson.object.injEq] at hmembers
    rw [Option.some.injEq, BscJson.array.injEq] at hitems
    rw [hmembers, hitems]
    exact ⟨hlabels, hall⟩
  · rintro ⟨hlabels, hall⟩
    rcases hparts.event with ⟨text, value, hhead, hreads⟩
    exact {
      base := hparts.baseMembers
      on := ⟨members, text, value, hparts.on, hhead, hreads, hlabels⟩
      actions := ⟨items, hparts.items, hall⟩ }

theorem failed_eq (count : ℤ) (entries : List ConnThenInfo) :
    ConnOutcome.failed ⟨baseInfo, onInfo, count, some entries⟩ =
      if count < 0 ∨ entries.length < count.toNat then .error .outOfBounds
      else
        .ok ⟨false, ⟨baseInfo, onInfo, count, some entries⟩,
          ConnInfo.eventBlocks ⟨baseInfo, onInfo, count, some entries⟩ ++
            (valueBlocks 0 (entries.take count.toNat) ++ [.thenInfo])⟩ := by
  unfold ConnOutcome.failed freeConnInfo
  simp only
  split_ifs <;> rfl

theorem byte_count_le (items : List BscJson) :
    (items.length : ℤ).bmod 256 ≤ items.length := by
  rw [Int.bmod_def]
  split_ifs <;> omega

/-- The release of a record of which the last actions have no values. -/
theorem failed_iff {infos cleared : List ConnThenInfo} {count : ℤ}
    (hsome : ∀ info ∈ infos, info.connValue.isSome = true)
    (hnone : ∀ info ∈ cleared, info.connValue = none)
    (hcount : count ≤ (infos ++ cleared).length) :
    (∃ outcome,
        ConnOutcome.failed
            ⟨baseInfo, onInfo, count, some (infos ++ cleared)⟩ =
          .ok outcome ∧ outcome.success = false ∧
          outcome.freed.Perm outcome.info.blocks) ↔
      (infos.length : ℤ) ≤ count := by
  have hblocks : ConnInfo.blocks
      ⟨baseInfo, onInfo, count, some (infos ++ cleared)⟩ =
        ConnInfo.eventBlocks
            ⟨baseInfo, onInfo, count, some (infos ++ cleared)⟩ ++
          (valueBlocks 0 (infos ++ cleared) ++ [.thenInfo]) := rfl
  rw [failed_eq]
  split_ifs with hwrong
  · constructor
    · rintro ⟨outcome, houtcome, -⟩
      cases houtcome
    · intro hle
      omega
  · constructor
    · rintro ⟨outcome, houtcome, -, hperm⟩
      rw [← Except.ok.inj houtcome, hblocks, List.perm_append_left_iff,
        List.perm_append_right_iff, take_perm_iff hsome hnone] at hperm
      omega
    · intro hle
      refine ⟨_, rfl, rfl, ?_⟩
      rw [hblocks, List.perm_append_left_iff, List.perm_append_right_iff,
        take_perm_iff hsome hnone]
      omega

theorem thenInfoNum_listed (entries : List ConnThenInfo) :
    (listed items baseInfo onInfo entries).thenInfoNum =
      (items.length : ℤ).bmod 256 := by
  rw [listed]

theorem Parts.sound_of_readAs
    (hparts : env.Parts json members items baseInfo onInfo)
    {infos : List ConnThenInfo} (hread : env.ReadAs items infos) :
    env.ParseSound json ↔ EventLabels (.object members) ∧
      items.length ≤ 127 ∧ ∀ item ∈ items, ∃ action value,
        env.Declares item action value ∧ action.Fits := by
  have hlist : env.parseThenInfos items = .ok (true, infos) := by
    have happend := parseThenInfos_append hread []
    rw [List.append_nil, parseThenInfos] at happend
    rw [happend, Except.map, List.append_nil]
  have hparse := hparts.parse_eq hlist
  rw [if_pos rfl] at hparse
  have hcomplete := hparts.complete_iff
  rw [and_iff_left hread.declares] at hcomplete
  have hcount : (listed items baseInfo onInfo infos).thenInfoNum =
      items.length ↔ items.length ≤ 127 := by
    rw [thenInfoNum_listed, bmod_byte_eq_self]
    omega
  rw [← hread.held_iff, ← hcomplete, ← hcount]
  constructor
  · rintro ⟨outcome, houtcome, hiff, hheld, -⟩
    rw [hparse] at houtcome
    rw [← Except.ok.inj houtcome] at hiff hheld
    rcases hheld rfl with ⟨others, entries, hothers, hentries, hnum, hall⟩
    have hitems := hparts.items.symm.trans hothers
    rw [Option.some.injEq, BscJson.array.injEq] at hitems
    rw [← hitems] at hnum hall
    rw [← Option.some.inj hentries] at hall
    exact ⟨hiff.mp rfl, hnum, hall⟩
  · rintro ⟨hall, hnum, hheld⟩
    refine ⟨_, hparse, iff_of_true rfl hall, ?_, ?_⟩
    · intro _
      exact ⟨items, infos, hparts.items, rfl, hnum, hheld⟩
    · intro hfailed
      cases hfailed

theorem Parts.sound_of_split
    (hparts : env.Parts json members items baseInfo onInfo)
    {before after : List BscJson} {item : BscJson}
    {infos : List ConnThenInfo} (hsplit : items = before ++ item :: after)
    (hread : env.ReadAs before infos)
    (hbad : ∀ action value, ¬ env.Declares item action value) :
    env.ParseSound json ↔ (∃ members, item = .object members) ∧
      ¬ env.Crashes item ∧
      (before.length : ℤ) ≤ (items.length : ℤ).bmod 256 := by
  have hcomplete : ¬ env.Complete json := by
    rw [hparts.complete_iff]
    rintro ⟨-, hall⟩
    rcases hall item (by simp [hsplit]) with ⟨action, value, hdeclares⟩
    exact hbad action value hdeclares
  have happend := parseThenInfos_append hread (item :: after)
  rw [← hsplit] at happend
  have hpassed : ∀ entries,
      env.parseThenInfos items = .ok (true, entries) →
        ¬ env.ParseSound json := by
    intro entries hlist
    have hparse := hparts.parse_eq hlist
    rw [if_pos rfl] at hparse
    rintro ⟨outcome, houtcome, hiff, -⟩
    rw [hparse] at houtcome
    rw [← Except.ok.inj houtcome] at hiff
    exact hcomplete (hiff.mp rfl)
  by_cases hobject : ∃ members, item = .object members
  · rcases hobject with ⟨own, rfl⟩
    rw [and_iff_right ⟨own, rfl⟩]
    rcases @parseThenInfo_cases env (.object own) with
      ⟨action, value, hdeclares, -⟩ | ⟨hcrash, -, hitem⟩ | ⟨-, hclean, hitem⟩
    · exact absurd hdeclares (hbad action value)
    · rw [parseThenInfos, hitem] at happend
      have hparse := hparts.parse_error happend
      simp only [hcrash, not_true_eq_false, false_and, iff_false]
      rintro ⟨outcome, houtcome, -⟩
      rw [hparse] at houtcome
      cases houtcome
    · rw [parseThenInfos, hitem] at happend
      have hlist : env.parseThenInfos items =
          .ok (false, infos ++ .cleared :: after.map fun _ => .cleared) :=
        happend
      have hparse := hparts.parse_eq hlist
      rw [if_neg Bool.false_ne_true, listed] at hparse
      have hcount : (items.length : ℤ).bmod 256 ≤
          (infos ++ ConnThenInfo.cleared ::
            after.map fun _ => .cleared).length := by
        have hsame : (infos ++ ConnThenInfo.cleared ::
            after.map fun _ => .cleared).length = items.length := by
          rw [hsplit, List.length_append, List.length_append,
            List.length_cons, List.length_cons, List.length_map,
            hread.length_eq]
        rw [hsame]
        exact byte_count_le items
      have hnone : ∀ info ∈ ConnThenInfo.cleared ::
          after.map (fun _ => ConnThenInfo.cleared),
          info.connValue = none := by
        intro info hinfo
        rcases List.mem_cons.mp hinfo with rfl | hlater
        · rfl
        · rcases List.mem_map.mp hlater with ⟨_, -, rfl⟩
          rfl
      rw [and_iff_right hclean, hread.length_eq,
        ← failed_iff hread.valued hnone hcount]
      constructor
      · rintro ⟨outcome, houtcome, hiff, -, hperm⟩
        have hfailed : outcome.success = false := by
          rw [← Bool.not_eq_true, hiff]
          exact hcomplete
        rw [hparse] at houtcome
        exact ⟨outcome, houtcome, hfailed, hperm hfailed⟩
      · rintro ⟨outcome, houtcome, hfailed, hperm⟩
        have hpass : ¬ outcome.success = true := by
          rw [hfailed]
          exact Bool.false_ne_true
        exact ⟨outcome, hparse.trans houtcome, iff_of_false hpass hcomplete,
          fun hsuccess => absurd hsuccess hpass, fun _ => hperm⟩
  · -- The loop ends with the result of the parser before.
    have hrest : env.parseThenInfos (item :: after) =
        .ok (true, .cleared :: after.map fun _ => .cleared) := by
      cases item with
      | object own => exact absurd ⟨own, rfl⟩ hobject
      | null => rfl
      | bool value => rfl
      | number value => rfl
      | string text => rfl
      | array own => rfl
    rw [hrest] at happend
    simp only [hobject, false_and, iff_false]
    exact hpassed _ happend

theorem Parts.sound_iff_actionsFit
    (hparts : env.Parts json members items baseInfo onInfo) :
    env.ParseSound json ↔
      env.ActionsFit (EventLabels (.object members)) items := by
  constructor
  · intro hsound
    rcases readAs_or_split env items with ⟨infos, hread⟩ |
      ⟨before, item, after, infos, hsplit, hread, hbad⟩
    · exact Or.inl ((hparts.sound_of_readAs hread).mp hsound)
    · rcases (hparts.sound_of_split hsplit hread hbad).mp hsound with
        ⟨hobject, hclean, hcount⟩
      exact Or.inr ⟨before, item, after, hsplit, hread.declares, hobject,
        hbad, hclean, hcount⟩
  · rintro (⟨hlabels, hlength, hall⟩ |
      ⟨before, item, after, hsplit, hbefore, hobject, hbad, hclean, hcount⟩)
    · have hdeclared : ∀ item ∈ items, ∃ action value,
          env.Declares item action value := by
        intro item hitem
        rcases hall item hitem with ⟨action, value, hdeclares, -⟩
        exact ⟨action, value, hdeclares⟩
      rcases exists_readAs hdeclared with ⟨infos, hread⟩
      exact (hparts.sound_of_readAs hread).mpr ⟨hlabels, hlength, hall⟩
    · rcases exists_readAs hbefore with ⟨infos, hread⟩
      exact (hparts.sound_of_split hsplit hread hbad).mpr
        ⟨hobject, hclean, hcount⟩

/-- A rule that is given up before anything is allocated. -/
theorem sound_of_failed {info : ConnInfo} (hblocks : info.blocks = [])
    (hparse : env.connectivityParse json = .ok ⟨false, info, []⟩)
    (hcomplete : ¬ env.Complete json) : env.ParseSound json := by
  refine ⟨_, hparse, iff_of_false Bool.false_ne_true hcomplete, ?_, ?_⟩
  · intro hsuccess
    cases hsuccess
  · intro _
    rw [hblocks]

theorem not_sound_of_passed {info : ConnInfo}
    (hparse : env.connectivityParse json = .ok (.passed info))
    (hcomplete : ¬ env.Complete json) : ¬ env.ParseSound json := by
  rintro ⟨outcome, houtcome, hiff, -⟩
  rw [hparse] at houtcome
  rw [← Except.ok.inj houtcome] at hiff
  exact hcomplete (hiff.mp rfl)

end

/-- A rule with a base part, by what its other parts are. -/
theorem sound_iff_of_base {json : BscJson} {baseInfo : ConnBaseInfo}
    (hbase : parseBasePart json = .ok (some baseInfo))
    (hbaseMembers : ∃ own,
      json.getObjectItem "ruleBaseInfoForDeviceTo".toList =
        some (.object own) ∧ BaseMembers (.object own)) :
    env.ParseSound json ↔ env.RestFits json := by
  unfold RestFits
  by_cases hon : ∃ members, json.getObjectItem "onInfoForDeviceTo".toList =
      some (.object members)
  · rcases hon with ⟨members, hon⟩
    have hmember : objectMember "onInfoForDeviceTo".toList json =
        some (.object members) :=
      objectMember_eq_some.mpr ⟨members, hon, rfl⟩
    have hsame : ∀ other, json.getObjectItem "onInfoForDeviceTo".toList =
        some (.object other) → other = members := by
      intro other hother
      rw [hon, Option.some.injEq, BscJson.object.injEq] at hother
      exact hother.symm
    have hmatch : ∀ P : List (CString × BscJson) → Prop,
        (∃ other, json.getObjectItem "onInfoForDeviceTo".toList =
          some (.object other) ∧ P other) ↔ P members := by
      intro P
      constructor
      · rintro ⟨other, hother, hP⟩
        rw [← hsame other hother]
        exact hP
      · intro hP
        exact ⟨members, hon, hP⟩
    rw [hmatch]
    rcases @parseOnInfo_cases env (.object members) with
      ⟨text, value, info, hhead, hreads, hvalued, -, hevent⟩ |
        ⟨text, hhead, hunvalued, hevent⟩ | ⟨hgiven, hevent⟩
    · have honly : ∀ other, env.EventHead (.object members) other →
          other = text := by
        intro other hother
        have hdata := hother.eventData
        rw [hhead.eventData, Option.some.injEq,
          BscJson.string.injEq] at hdata
        exact hdata.symm
      by_cases harray : ∃ items,
          json.getObjectItem "thenInfoQos".toList = some (.array items)
      · rcases harray with ⟨items, hitems⟩
        have hparts : env.Parts json members items baseInfo info :=
          ⟨hbase, hbaseMembers, hon, hevent, ⟨text, value, hhead, hreads⟩,
            hitems⟩
        rw [hparts.sound_iff_actionsFit]
        constructor
        · intro hfits other hother
          rw [honly other hother]
          exact ⟨hvalued, fun _ => ⟨items, hitems, hfits⟩⟩
        · intro hall
          rcases (hall text hhead).2 ⟨value, hreads⟩ with
            ⟨others, hothers, hfits⟩
          rw [hitems, Option.some.injEq, BscJson.array.injEq] at hothers
          rw [hothers]
          exact hfits
      · apply iff_of_false
        · apply @not_sound_of_passed env json {
            ConnInfo.cleared with baseInfo := baseInfo, onInfo := info }
          · rw [connectivityParse, hbase, hmember]
            simp only [hevent]
            cases hactions : json.getObjectItem "thenInfoQos".toList with
            | none => rfl
            | some actions =>
                cases actions with
                | array items => exact absurd ⟨items, hactions⟩ harray
                | null => rfl
                | bool value => rfl
                | number value => rfl
                | string value => rfl
                | object own => rfl
          · intro hcomplete
            rcases hcomplete.actions with ⟨items, hitems, -⟩
            exact harray ⟨items, hitems⟩
        · intro hall
          rcases (hall text hhead).2 ⟨value, hreads⟩ with ⟨items, hitems, -⟩
          exact harray ⟨items, hitems⟩
    · apply iff_of_false
      · rintro ⟨outcome, houtcome, -⟩
        rw [connectivityParse, hbase, hmember] at houtcome
        simp only [hevent] at houtcome
        cases houtcome
      · intro hall
        exact (hall text hhead).1 hunvalued
    · apply iff_of_true
      · apply @sound_of_failed env json
          { ConnInfo.cleared with baseInfo := baseInfo } rfl
        · rw [connectivityParse, hbase, hmember]
          simp only [hevent]
          rfl
        · intro hcomplete
          rcases hcomplete.on with ⟨other, text, value, hother, hhead, hreads,
            -⟩
          rw [hsame other hother] at hhead
          exact (hgiven text hhead).2 value hreads
      · intro text hhead
        rcases hgiven text hhead with ⟨hvalued, hunread⟩
        refine ⟨hvalued, ?_⟩
        rintro ⟨value, hreads⟩
        exact absurd hreads (hunread value)
  · apply iff_of_false
    · apply @not_sound_of_passed env json
        { ConnInfo.cleared with baseInfo := baseInfo }
      · have hmember : objectMember "onInfoForDeviceTo".toList json =
            none := by
          rw [Option.eq_none_iff_forall_ne_some]
          intro found hfound
          rcases objectMember_eq_some.mp hfound with ⟨members, hmembers, -⟩
          exact hon ⟨members, hmembers⟩
        rw [connectivityParse, hbase, hmember]
      · intro hcomplete
        rcases hcomplete.on with ⟨members, _, _, hmembers, -⟩
        exact hon ⟨members, hmembers⟩
    · rintro ⟨members, hmembers, -⟩
      exact hon ⟨members, hmembers⟩

end ConnEnv

/-- `connectivity_parse` accepts the complete rules, and no others, exactly if
the rule fits. -/
theorem connectivityParse_sound_iff (env : ConnEnv) (json : BscJson) :
    env.ParseSound json ↔ env.RuleFits json := by
  unfold ConnEnv.RuleFits
  rcases parseBasePart_cases json with
    ⟨baseInfo, members, hmembers, hbase, hfit, hparse⟩ |
      ⟨members, hmembers, hunfit, hparse⟩ | ⟨hgiven, hparse⟩
  · have hdays : ∀ other,
        json.getObjectItem "ruleBaseInfoForDeviceTo".toList =
          some (.object other) → DaysFit (.object other) := by
      intro other hother
      rw [hmembers, Option.some.injEq, BscJson.object.injEq] at hother
      rw [← hother]
      exact hfit
    rw [ConnEnv.sound_iff_of_base hparse ⟨members, hmembers, hbase⟩,
      and_iff_right hdays, or_iff_right]
    intro hall
    exact hall members hmembers hbase
  · -- A day is written in front of the array.
    apply iff_of_false
    · rintro ⟨outcome, houtcome, -⟩
      simp only [ConnEnv.connectivityParse, hparse] at houtcome
      cases houtcome
    · rintro ⟨hdays, -⟩
      exact hunfit (hdays members hmembers)
  · apply iff_of_true
    · apply @ConnEnv.sound_of_failed env json .cleared rfl
      · simp only [ConnEnv.connectivityParse, hparse]
        rfl
      · intro hcomplete
        rcases hcomplete.base with ⟨members, hmembers, hbase⟩
        exact (hgiven members hmembers).1 hbase
    · exact ⟨fun members hmembers => (hgiven members hmembers).2,
        Or.inl fun members hmembers => (hgiven members hmembers).1⟩

/-- No text is a document, and the device has no serial number. -/
def bareEnv : ConnEnv where
  parse := fun _ => none
  print := fun _ => none
  devSubserial := []

theorem base_only_accepted : ¬ bareEnv.ParseSound baseOnly := by
  have hbase : ∃ members,
      baseOnly.getObjectItem "ruleBaseInfoForDeviceTo".toList =
        some (.object members) ∧ BaseMembers (.object members) :=
    ⟨_, rfl, ⟨_, rfl⟩, ⟨_, rfl⟩, ⟨_, rfl⟩, ⟨_, rfl⟩, ⟨_, rfl⟩⟩
  have hparse : ∃ baseInfo, parseBasePart baseOnly = .ok (some baseInfo) :=
    ⟨_, rfl⟩
  rcases hparse with ⟨baseInfo, hparse⟩
  have hon : baseOnly.getObjectItem "onInfoForDeviceTo".toList = none := by
    decide
  rw [ConnEnv.sound_iff_of_base hparse hbase, ConnEnv.RestFits, hon]
  rintro ⟨members, hmembers, -⟩
  cases hmembers

end EziotSdk
