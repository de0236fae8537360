import EziotSdk.HubStore
import EziotSdk.StepSystem

/-!
# The stored list and its counter

Serial numbers stay distinct and the list stays within its bound in every run.
The counter of unauthenticated sub-devices is right as long as no sub-device
passes its authentication, no list with such sub-devices is cleaned (the two
operations that never touch it), and no write of an add or a delete gets
through only in the log line of its failure.
-/

namespace EziotSdk

open FirstMatch

namespace HubState

/-- What every operation keeps. -/
structure ListSound (sublistMax : ℕ) (state : HubState) : Prop where
  distinct : (state.hublist.map fun entry => entry.sn.1).Nodup
  bounded : state.hublist.length ≤ sublistMax

def Counted (state : HubState) : Prop :=
  state.unauthCount = state.hublist.countP fun entry => !entry.access

instance (state : HubState) : Decidable state.Counted :=
  inferInstanceAs (Decidable (_ = _))

/-- What the stored list and the counter promise. -/
structure StoreSound (sublistMax : ℕ) (state : HubState) : Prop extends
    ListSound sublistMax state where
  counted : state.Counted

/-- A sub-device that is not listed, and for which there is room. -/
def Admits (sublistMax : ℕ) (subdev : HubSubdev) (state : HubState) : Prop :=
  state.hublist.any (hasSubdevSn subdev.sn.1) = false ∧
    state.hublist.length < sublistMax

/-- An add or a delete of an unauthenticated sub-device does not reach the
storage in the log line of its failure, an authentication that passes and
reaches the storage finds its sub-device already authenticated, and a list
that is cleaned has only such sub-devices. -/
def CountSound (sublistMax : ℕ) (state : HubState) : HubEvent → Prop
  | .add subdev write =>
      state.locked = false → write = .retried →
        ¬ state.Admits sublistMax subdev
  | .del sn write | .authFailure sn write =>
      state.locked = false → write = .retried →
        ∀ entry, state.hublist.find? (hasSubdevSn sn) = some entry →
          entry.access = true
  | .authPassed sn write =>
      state.locked = false → write ≠ .failed →
        ∀ entry, state.hublist.find? (hasSubdevSn sn) = some entry →
          entry.access = true
  | .clean write =>
      state.locked = false → write ≠ .failed →
        state.enumerated.isSome = true →
          ∀ entry ∈ state.hublist, entry.access = true
  | _ => True

/-! ## The list -/

theorem ListSound.update {sublistMax : ℕ} {state : HubState}
    (hsound : state.ListSound sublistMax) (chosen : HubEntry → Bool)
    (change : HubEntry → HubEntry)
    (hsn : ∀ entry, (change entry).sn = entry.sn)
    (registered : List TslDevinfo) :
    ListSound sublistMax { state with
      hublist := updateFirst chosen change state.hublist
      registered := registered } where
  distinct := by
    rw [map_updateFirst_of_same]
    · exact hsound.distinct
    · intro entry
      rw [hsn]
  bounded := by
    rw [length_updateFirst]
    exact hsound.bounded

/-- A sub-device with a serial number of its own. -/
theorem ListSound.append {sublistMax : ℕ} {state : HubState}
    (hsound : state.ListSound sublistMax) {entry : HubEntry}
    (hnew : ¬ state.hublist.any (hasSubdevSn entry.sn.1) = true)
    (hroom : ¬ sublistMax ≤ state.hublist.length) (unauthCount : ℤ) :
    ListSound sublistMax { state with
      hublist := state.hublist ++ [entry]
      unauthCount := unauthCount } where
  distinct := by
    rw [List.map_append, List.nodup_append]
    refine ⟨hsound.distinct, List.nodup_singleton _, ?_⟩
    intro sn hsn other hother heq
    rw [List.map_singleton, List.mem_singleton] at hother
    rcases List.mem_map.mp hsn with ⟨listed, hlisted, hkey⟩
    apply hnew
    rw [List.any_eq_true]
    refine ⟨listed, hlisted, ?_⟩
    simpa [hasSubdevSn, hkey, heq] using hother
  bounded := by
    simp only [List.length_append, List.length_singleton]
    omega

theorem ListSound.add {sublistMax : ℕ} {state : HubState}
    (hsound : state.ListSound sublistMax) (subdev : HubSubdev)
    (write : HubWrite) :
    (state.hubAddDo sublistMax subdev write).2.ListSound sublistMax := by
  unfold hubAddDo
  split_ifs with hlisted hfull
  · exact hsound
  · exact hsound
  · exact writeHublist_keeps hsound (hsound.append hlisted hfull _)
      (hsound.append hlisted hfull _) write

theorem ListSound.del {sublistMax : ℕ} {state : HubState}
    (hsound : state.ListSound sublistMax) (sn : CString)
    (write : HubWrite) :
    (state.hubDelDo sn write).2.ListSound sublistMax := by
  unfold hubDelDo
  cases state.hublist.find? (hasSubdevSn sn) with
  | none => exact hsound
  | some entry =>
      have hsublist : (state.hublist.eraseP (hasSubdevSn sn)).Sublist
          state.hublist := List.eraseP_sublist
      have hdistinct := hsound.distinct.sublist
        (hsublist.map fun entry => entry.sn.1)
      have hbounded := hsublist.length_le.trans hsound.bounded
      refine writeHublist_keeps hsound ⟨hdistinct, hbounded⟩ ?_ write
      split_ifs
      · exact ⟨hdistinct, hbounded⟩
      · exact ⟨hdistinct, hbounded⟩

theorem ListSound.verUpdate {sublistMax : ℕ} {state : HubState}
    (hsound : state.ListSound sublistMax) (sn ver : CString)
    (write : HubWrite) :
    (state.hubVerUpdateDo sn ver write).2.ListSound sublistMax := by
  unfold hubVerUpdateDo
  cases state.hublist.find? (hasSubdevSn sn) with
  | none => exact hsound
  | some entry =>
      have hupdated := hsound.update (hasSubdevSn sn)
        (fun entry => { entry with ver := ver }) (fun _ => rfl)
      exact writeHublist_keeps hsound (hupdated _) (hupdated _) write

theorem ListSound.statusUpdate {sublistMax : ℕ} {state : HubState}
    (hsound : state.ListSound sublistMax) (sn : CString) (online : Bool)
    (write : HubWrite) :
    (state.hubStatusUpdateDo sn online write).2.ListSound sublistMax := by
  unfold hubStatusUpdateDo
  cases state.hublist.find? (hasSubdevSn sn) with
  | none => exact hsound
  | some entry =>
      have hupdated := hsound.update (hasSubdevSn sn)
        (fun entry => { entry with sta := online }) (fun _ => rfl)
      exact writeHublist_keeps hsound (hupdated _) (hupdated _) write

theorem ListSound.authPassed {sublistMax : ℕ} {state : HubState}
    (hsound : state.ListSound sublistMax) (sn : CString)
    (write : HubWrite) :
    (state.hubSubdevAuthPassed sn write).2.ListSound sublistMax := by
  unfold hubSubdevAuthPassed
  cases state.hublist.find? (hasSubdevSn sn) with
  | none => exact hsound
  | some entry =>
      have hupdated := hsound.update (hasSubdevSn sn)
        (fun entry => { entry with access := true }) (fun _ => rfl)
      exact writeHublist_keeps hsound (hupdated _) (hupdated _) write

theorem ListSound.clean {sublistMax : ℕ} {state : HubState}
    (hsound : state.ListSound sublistMax) (visited : List HubEntry)
    (write : HubWrite) :
    (state.hubCleanDo visited write).2.ListSound sublistMax := by
  cases write with
  | stored => exact ⟨List.nodup_nil, Nat.zero_le sublistMax⟩
  | retried => exact ⟨List.nodup_nil, Nat.zero_le sublistMax⟩
  | failed => exact ⟨hsound.distinct, hsound.bounded⟩

theorem ListSound.step {sublistMax : ℕ} {state next : HubState}
    (hsound : state.ListSound sublistMax) {event : HubEvent}
    (hstep : state.step sublistMax event = some next) :
    next.ListSound sublistMax := by
  cases event with
  | startUp =>
      rcases Option.map_eq_some_iff.mp hstep with ⟨visited, _, hnext⟩
      rw [← hnext]
      exact ⟨hsound.distinct, hsound.bounded⟩
  | clean write =>
      have hclean := (unlocked_eq_some hstep).2
      rcases Option.map_eq_some_iff.mp hclean with ⟨visited, _, hnext⟩
      rw [← hnext]
      exact hsound.clean visited write
  | add subdev write =>
      rw [← Option.some.inj (unlocked_eq_some hstep).2]
      exact hsound.add subdev write
  | del sn write =>
      rw [← Option.some.inj (unlocked_eq_some hstep).2]
      exact hsound.del sn write
  | verUpdate sn ver write =>
      rw [← Option.some.inj (unlocked_eq_some hstep).2]
      exact hsound.verUpdate sn ver write
  | statusUpdate sn online write =>
      rw [← Option.some.inj (unlocked_eq_some hstep).2]
      exact hsound.statusUpdate sn online write
  | authPassed sn write =>
      rw [← Option.some.inj (unlocked_eq_some hstep).2]
      exact hsound.authPassed sn write
  | authFailure sn write =>
      rw [← Option.some.inj (unlocked_eq_some hstep).2]
      exact hsound.del sn write

/-- An enumeration that ends has visited the stored list. -/
theorem ListSound.enumerated {sublistMax : ℕ} {state : HubState}
    (hsound : state.ListSound sublistMax) {visited : List HubEntry}
    (hvisited : state.enumerated = some visited) :
    visited = state.hublist := by
  rw [enumerated_eq hsound.distinct] at hvisited
  split_ifs at hvisited
  exact (Option.some.inj hvisited).symm

/-! ## The counter -/

theorem countP_unauth_eq_zero_iff (hublist : List HubEntry) :
    (hublist.countP fun entry => !entry.access) = 0 ↔
      ∀ entry ∈ hublist, entry.access = true := by
  rw [List.countP_eq_zero]
  simp

theorem Counted.add_iff {state : HubState} (hcounted : state.Counted)
    (sublistMax : ℕ) (subdev : HubSubdev) (write : HubWrite) :
    (state.hubAddDo sublistMax subdev write).2.Counted ↔
      (write = .retried → ¬ state.Admits sublistMax subdev) := by
  unfold hubAddDo Admits
  split_ifs with hlisted hfull
  · simp [hcounted, hlisted]
  · simp [hcounted, hfull]
  · have hadmitted : state.hublist.any (hasSubdevSn subdev.sn.1) = false ∧
        state.hublist.length < sublistMax :=
      ⟨Bool.eq_false_of_not_eq_true hlisted, Nat.lt_of_not_le hfull⟩
    cases write with
    | stored =>
        refine iff_of_true ?_ (by simp)
        unfold Counted at hcounted ⊢
        simp [writeHublist, hcounted, subdevToJson]
    | retried =>
        refine iff_of_false ?_ fun hnot => hnot rfl hadmitted
        unfold Counted at hcounted ⊢
        simp [writeHublist, hcounted, subdevToJson]
    | failed => exact iff_of_true hcounted (by simp)

theorem Counted.del_iff {state : HubState} (hcounted : state.Counted)
    (sn : CString) (write : HubWrite) :
    (state.hubDelDo sn write).2.Counted ↔
      (write = .retried → ∀ entry,
        state.hublist.find? (hasSubdevSn sn) = some entry →
          entry.access = true) := by
  unfold hubDelDo
  cases hfind : state.hublist.find? (hasSubdevSn sn) with
  | none => simp [hcounted]
  | some entry =>
      have hcount := countP_eraseP (fun entry : HubEntry => !entry.access)
        hfind
      simp only [Option.some.injEq, forall_eq']
      unfold Counted at hcounted
      cases write with
      | stored =>
          refine iff_of_true ?_ (by simp)
          simp only [writeHublist]
          split_ifs with haccess
          · rw [if_pos haccess] at hcount
            unfold Counted
            dsimp only
            omega
          · rw [if_neg haccess] at hcount
            unfold Counted
            dsimp only
            omega
      | retried =>
          simp only [writeHublist, Counted, forall_const]
          cases haccess : entry.access with
          | false =>
              simp only [haccess, Bool.not_false, if_true] at hcount
              refine iff_of_false ?_ Bool.false_ne_true
              omega
          | true =>
              simp only [haccess, Bool.not_true, Bool.false_eq_true,
                if_false] at hcount
              refine iff_of_true ?_ rfl
              omega
      | failed => exact iff_of_true hcounted (by simp)

/-- An update that keeps the access flag. -/
theorem Counted.update {state : HubState} (hcounted : state.Counted)
    (chosen : HubEntry → Bool) (change : HubEntry → HubEntry)
    (haccess : ∀ entry, (change entry).access = entry.access)
    (registered : List TslDevinfo) :
    Counted { state with
      hublist := updateFirst chosen change state.hublist
      registered := registered } := by
  unfold Counted at hcounted ⊢
  rw [countP_updateFirst_of_same, hcounted]
  intro entry
  rw [haccess]

theorem Counted.verUpdate {state : HubState} (hcounted : state.Counted)
    (sn ver : CString) (write : HubWrite) :
    (state.hubVerUpdateDo sn ver write).2.Counted := by
  unfold hubVerUpdateDo
  cases state.hublist.find? (hasSubdevSn sn) with
  | none => exact hcounted
  | some entry =>
      have hupdated := hcounted.update (hasSubdevSn sn)
        (fun entry => { entry with ver := ver }) (fun _ => rfl)
      exact writeHublist_keeps hcounted (hupdated _) (hupdated _) write

theorem Counted.statusUpdate {state : HubState} (hcounted : state.Counted)
    (sn : CString) (online : Bool) (write : HubWrite) :
    (state.hubStatusUpdateDo sn online write).2.Counted := by
  unfold hubStatusUpdateDo
  cases state.hublist.find? (hasSubdevSn sn) with
  | none => exact hcounted
  | some entry =>
      have hupdated := hcounted.update (hasSubdevSn sn)
        (fun entry => { entry with sta := online }) (fun _ => rfl)
      exact writeHublist_keeps hcounted (hupdated _) (hupdated _) write

/-- The first entry that is changed, with its access flag set. -/
theorem Counted.authorised_iff {state : HubState}
    (hcounted : state.Counted) {sn : CString} {entry : HubEntry}
    (hfind : state.hublist.find? (hasSubdevSn sn) = some entry)
    (registered : List TslDevinfo) :
    Counted { state with
      hublist := updateFirst (hasSubdevSn sn)
        (fun entry => { entry with access := true }) state.hublist
      registered := registered } ↔ entry.access = true := by
  have hcount := countP_updateFirst
    (fun entry : HubEntry => { entry with access := true })
    (fun entry => !entry.access) hfind
  dsimp only at hcount
  simp only [Bool.not_true, Bool.false_eq_true, if_false] at hcount
  unfold Counted at hcounted ⊢
  dsimp only
  cases haccess : entry.access with
  | false =>
      simp only [haccess, Bool.not_false, if_true] at hcount
      refine iff_of_false ?_ Bool.false_ne_true
      omega
  | true =>
      simp only [haccess, Bool.not_true, Bool.false_eq_true,
        if_false] at hcount
      refine iff_of_true ?_ rfl
      omega

theorem Counted.authPassed_iff {state : HubState}
    (hcounted : state.Counted) (sn : CString) (write : HubWrite) :
    (state.hubSubdevAuthPassed sn write).2.Counted ↔
      (write ≠ .failed → ∀ entry,
        state.hublist.find? (hasSubdevSn sn) = some entry →
          entry.access = true) := by
  unfold hubSubdevAuthPassed
  cases hfind : state.hublist.find? (hasSubdevSn sn) with
  | none => simp [hcounted]
  | some entry =>
      have hauthorised := hcounted.authorised_iff hfind
      simp only [Option.some.injEq, forall_eq']
      cases write with
      | stored =>
          refine (hauthorised _).trans ?_
          simp
      | retried =>
          refine (hauthorised _).trans ?_
          simp
      | failed => exact iff_of_true hcounted fun hnot => absurd rfl hnot

theorem Counted.clean_iff {state : HubState} (hcounted : state.Counted)
    (visited : List HubEntry) (write : HubWrite) :
    (state.hubCleanDo visited write).2.Counted ↔
      (write ≠ .failed → ∀ entry ∈ state.hublist, entry.access = true) := by
  rw [← countP_unauth_eq_zero_iff]
  unfold Counted at hcounted ⊢
  cases write with
  | stored => simp [hubCleanDo, hcounted]
  | retried => simp [hubCleanDo, hcounted]
  | failed => exact iff_of_true hcounted fun hnot => absurd rfl hnot

/-- The start counts anew. -/
theorem counted_startUp {sublistMax : ℕ} {state : HubState}
    (hsound : state.ListSound sublistMax) {visited : List HubEntry}
    (hvisited : state.enumerated = some visited) :
    (state.restarted.hubTslRegAll visited).Counted := by
  rw [hsound.enumerated hvisited]
  rfl

/-! ## Runs -/

/-- One operation keeps the counter right exactly under the condition. -/
theorem StoreSound.counted_step_iff {sublistMax : ℕ} {state next : HubState}
    (hsound : state.StoreSound sublistMax) {event : HubEvent}
    (hstep : state.step sublistMax event = some next) :
    next.Counted ↔ state.CountSound sublistMax event := by
  have hcounted := hsound.counted
  cases event with
  | startUp =>
      rcases Option.map_eq_some_iff.mp hstep with ⟨visited, hvisited, hnext⟩
      rw [← hnext]
      exact iff_of_true
        (counted_startUp hsound.toListSound hvisited) trivial
  | clean write =>
      rcases unlocked_eq_some hstep with ⟨hlocked, hclean⟩
      rcases Option.map_eq_some_iff.mp hclean with
        ⟨visited, hvisited, hnext⟩
      rw [← hnext, hcounted.clean_iff visited write]
      simp [CountSound, hlocked, hvisited]
  | add subdev write =>
      rcases unlocked_eq_some hstep with ⟨hlocked, hnext⟩
      rw [← Option.some.inj hnext, hcounted.add_iff sublistMax subdev write]
      simp [CountSound, hlocked]
  | del sn write | authFailure sn write =>
      rcases unlocked_eq_some hstep with ⟨hlocked, hnext⟩
      have hdel := hcounted.del_iff sn write
      rw [← Option.some.inj hnext]
      refine hdel.trans ?_
      simp [CountSound, hlocked]
  | verUpdate sn ver write =>
      rw [← Option.some.inj (unlocked_eq_some hstep).2]
      exact iff_of_true (hcounted.verUpdate sn ver write) trivial
  | statusUpdate sn online write =>
      rw [← Option.some.inj (unlocked_eq_some hstep).2]
      exact iff_of_true (hcounted.statusUpdate sn online write) trivial
  | authPassed sn write =>
      rcases unlocked_eq_some hstep with ⟨hlocked, hnext⟩
      rw [← Option.some.inj hnext, hcounted.authPassed_iff sn write]
      simp [CountSound, hlocked]

/-- An operation outside the condition is one that is carried out. -/
theorem exists_step_of_not_countSound (sublistMax : ℕ) {state : HubState}
    {event : HubEvent} (hnot : ¬ state.CountSound sublistMax event) :
    ∃ next, state.step sublistMax event = some next := by
  cases event with
  | add subdev write =>
      unfold CountSound at hnot
      push Not at hnot
      have hlocked := hnot.1
      simp [step, hlocked]
  | del sn write | authFailure sn write | authPassed sn write =>
      unfold CountSound at hnot
      push Not at hnot
      have hlocked := hnot.1
      simp [step, hlocked]
  | clean write =>
      unfold CountSound at hnot
      push Not at hnot
      have hlocked := hnot.1
      rcases Option.isSome_iff_exists.mp hnot.2.2.1 with ⟨visited, hvisited⟩
      simp [step, hlocked, hvisited]
  | startUp => exact absurd trivial hnot
  | verUpdate sn ver write => exact absurd trivial hnot
  | statusUpdate sn online write => exact absurd trivial hnot

theorem listSound_init (sublistMax : ℕ) : init.ListSound sublistMax where
  distinct := List.nodup_nil
  bounded := Nat.zero_le sublistMax

/-- The list itself is sound in every run. -/
theorem listSound_along (sublistMax : ℕ) (events : List HubEvent) :
    StepSystem.Along (step sublistMax) (ListSound sublistMax) init events := by
  apply StepSystem.along_of_invariant
  · intro state event next hsound hstep
    exact hsound.step hstep
  · exact listSound_init sublistMax

/-- Over any sequence of operations the store is sound exactly when each of
them meets the condition. -/
theorem storeSound_along_iff_countSound
    (sublistMax : ℕ) (events : List HubEvent) :
    StepSystem.Along (step sublistMax) (StoreSound sublistMax) init events ↔
      StepSystem.StepsMeet (step sublistMax) (CountSound sublistMax) init
        events := by
  apply StepSystem.along_iff_stepsMeet
  · intro state hsound
    exact hsound
  · intro state event next hsound hcondition hstep
    have hcounted := (hsound.counted_step_iff hstep).mpr hcondition
    exact ⟨hsound.toListSound.step hstep, hcounted⟩
  · intro state event hsound hnot
    rcases exists_step_of_not_countSound sublistMax hnot with ⟨next, hstep⟩
    refine ⟨next, hstep, ?_⟩
    intro hafter
    exact hnot ((hsound.counted_step_iff hstep).mp hafter.counted)
  · exact ⟨listSound_init sublistMax, rfl⟩

/-- A sub-device for the runs on fixed inputs. -/
def sampleSubdev : HubSubdev where
  authm := 0
  type := ⟨"light".toList, by decide⟩
  sn := ⟨"ARZCWQSRG".toList, by decide⟩
  vcode := ⟨"ABCDEF".toList, by decide⟩
  ver := ⟨"V1.0".toList, by decide⟩
  uuid := ⟨[], by decide⟩
  sta := true
  access := false

/-- A sub-device is added and passes its authentication: none is left
unauthenticated, and the counter stays at one. -/
theorem authPassed_leaves_count :
    ¬ StepSystem.Along (step 64) (StoreSound 64) init
      [.add sampleSubdev .stored, .authPassed sampleSubdev.sn.1 .stored] := by
  intro halong
  have hcounted := halong.mono fun _ hsound => hsound.counted
  revert hcounted
  apply StepSystem.not_along_of_exec
  decide +kernel

end HubState

end EziotSdk
