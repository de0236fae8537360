import EziotSdk.HubRuns

/-!
# Enumerating the sub-devices

`hub_subdev_next` starts with an empty serial number and searches the list for
the previous one at every call.  A sub-device that is added without a serial
number sends it back to the start, and a clean whose write fails leaves the
lock that every call takes.
-/

namespace EziotSdk

open FirstMatch

namespace HubState

/-- The entries that a number of calls visits, up to the end of the
enumeration. -/
def subdevsVisited (state : HubState) (calls : ℕ) :
    Option (List HubEntry) :=
  if state.locked then none else enumSubdevs state.hublist calls []

/-- The enumeration ends and has visited the stored list. -/
def Enumerates (state : HubState) : Prop :=
  ∃ calls, state.subdevsVisited calls = some state.hublist

def serials (state : HubState) : List CString :=
  state.hublist.map fun entry => entry.sn.1

/-- A sub-device that gets into the list has a serial number, and a clean
writes the list at once. -/
def NextSound (sublistMax : ℕ) (state : HubState) : HubEvent → Prop
  | .add subdev write =>
      write ≠ .failed → state.Admits sublistMax subdev → subdev.sn.1 ≠ []
  | .clean write => write = .stored
  | _ => True

/-! ## One state -/

theorem any_hasSubdevSn_iff (state : HubState) (sn : CString) :
    state.hublist.any (hasSubdevSn sn) = true ↔ sn ∈ state.serials := by
  simp [hasSubdevSn, serials]

theorem enumerated_of_named {state : HubState}
    (hdistinct : state.serials.Nodup) (hnamed : [] ∉ state.serials) :
    state.enumerated = some state.hublist := by
  rw [enumerated_eq hdistinct]
  apply if_neg
  rw [any_hasSubdevSn_iff]
  exact hnamed

/-- The enumeration ends when the lock is free and every entry has a serial
number. -/
theorem enumerates_iff {state : HubState} (hdistinct : state.serials.Nodup) :
    state.Enumerates ↔ state.locked = false ∧ [] ∉ state.serials := by
  unfold Enumerates subdevsVisited
  cases hlocked : state.locked with
  | true => simp
  | false =>
      simp only [Bool.false_eq_true, if_false, true_and]
      constructor
      · rintro ⟨calls, hvisited⟩ hempty
        cases hlist : state.hublist with
        | nil => simp [serials, hlist] at hempty
        | cons first rest =>
            have hnil : state.hublist = [] ++ first :: rest := hlist
            have hlater : ∃ later ∈ first :: rest, later.sn.1 = [] := by
              rw [← hlist]
              exact List.mem_map.mp hempty
            have hnever := (enumSubdevs_empty hdistinct calls hnil hlater).2
            rw [hnever] at hvisited
            cases hvisited
      · intro hnamed
        exact ⟨state.hublist.length + 1,
          enumerated_of_named hdistinct hnamed⟩

/-! ## One operation -/

/-- The list is sound, and the enumeration ends. -/
structure EnumSound (sublistMax : ℕ) (state : HubState) : Prop extends
    ListSound sublistMax state where
  unlocked : state.locked = false
  named : [] ∉ state.serials

theorem EnumSound.enumerates {sublistMax : ℕ} {state : HubState}
    (hsound : state.EnumSound sublistMax) : state.Enumerates :=
  (enumerates_iff hsound.distinct).mpr ⟨hsound.unlocked, hsound.named⟩

theorem serials_update_subset {state next : HubState}
    {chosen : HubEntry → Bool} {change : HubEntry → HubEntry}
    (hnext : next.hublist = updateFirst chosen change state.hublist)
    (hsn : ∀ entry, (change entry).sn = entry.sn) :
    next.serials ⊆ state.serials := by
  unfold serials
  rw [hnext, map_updateFirst_of_same]
  · exact List.Subset.refl _
  · intro entry
    rw [hsn]

/-- The same for a change of one sub-device that is written. -/
theorem serials_written_subset {state : HubState} {chosen : HubEntry → Bool}
    {change : HubEntry → HubEntry} {follow : HubState → HubState}
    (hsn : ∀ entry, (change entry).sn = entry.sn)
    (hfollow : ∀ state, (follow state).hublist = state.hublist)
    (write : HubWrite) :
    (state.writeHublist write (updateFirst chosen change state.hublist)
      follow).2.serials ⊆ state.serials := by
  apply @writeHublist_keeps fun next => next.serials ⊆ state.serials
  · exact List.Subset.refl _
  · exact serials_update_subset rfl hsn
  · exact serials_update_subset (hfollow _) hsn

theorem serials_del_subset (sn : CString) (write : HubWrite)
    (state : HubState) :
    (state.hubDelDo sn write).2.serials ⊆ state.serials := by
  have hsubset : (state.hublist.eraseP (hasSubdevSn sn)).map
      (fun entry => entry.sn.1) ⊆ state.serials :=
    List.map_subset _ List.eraseP_subset
  unfold hubDelDo
  cases state.hublist.find? (hasSubdevSn sn) with
  | none => exact List.Subset.refl _
  | some entry =>
      refine @writeHublist_keeps (fun next => next.serials ⊆ state.serials)
        _ _ _ (List.Subset.refl _) hsubset ?_ write
      dsimp only
      split_ifs
      · exact hsubset
      · exact hsubset

/-- Operations other than an add or a clean. -/
theorem serials_step_subset {sublistMax : ℕ} {state next : HubState}
    {event : HubEvent} (hstep : state.step sublistMax event = some next)
    (hadd : ∀ subdev write, event ≠ .add subdev write) :
    next.serials ⊆ state.serials := by
  cases event with
  | add subdev write => exact absurd rfl (hadd subdev write)
  | startUp =>
      rcases Option.map_eq_some_iff.mp hstep with ⟨visited, _, hnext⟩
      rw [← hnext]
      exact List.Subset.refl _
  | clean write =>
      have hclean := (unlocked_eq_some hstep).2
      rcases Option.map_eq_some_iff.mp hclean with ⟨visited, _, hnext⟩
      rw [← hnext]
      cases write with
      | stored | retried => exact List.nil_subset _
      | failed => exact List.Subset.refl _
  | del sn write | authFailure sn write =>
      rw [← Option.some.inj (unlocked_eq_some hstep).2]
      exact serials_del_subset sn write state
  | verUpdate sn ver write =>
      rw [← Option.some.inj (unlocked_eq_some hstep).2]
      unfold hubVerUpdateDo
      cases state.hublist.find? (hasSubdevSn sn) with
      | none => exact List.Subset.refl _
      | some entry =>
          apply serials_written_subset
          · exact fun _ => rfl
          · exact fun _ => rfl
  | statusUpdate sn online write =>
      rw [← Option.some.inj (unlocked_eq_some hstep).2]
      unfold hubStatusUpdateDo
      cases state.hublist.find? (hasSubdevSn sn) with
      | none => exact List.Subset.refl _
      | some entry =>
          apply serials_written_subset
          · exact fun _ => rfl
          · exact fun _ => rfl
  | authPassed sn write =>
      rw [← Option.some.inj (unlocked_eq_some hstep).2]
      unfold hubSubdevAuthPassed
      cases state.hublist.find? (hasSubdevSn sn) with
      | none => exact List.Subset.refl _
      | some entry =>
          apply serials_written_subset
          · exact fun _ => rfl
          · exact fun _ => rfl

/-- A sub-device that gets into the list. -/
theorem serials_admitted {sublistMax : ℕ} {state : HubState}
    {subdev : HubSubdev} {write : HubWrite} (hwrite : write ≠ .failed)
    (hadmits : state.Admits sublistMax subdev) :
    (state.hubAddDo sublistMax subdev write).2.serials =
      state.serials ++ [subdev.sn.1] := by
  have hlisted := Bool.not_eq_true _ ▸ hadmits.1
  unfold hubAddDo
  rw [if_neg hlisted, if_neg (Nat.not_le.mpr hadmits.2)]
  cases write with
  | stored | retried => simp [writeHublist, serials, subdevToJson]
  | failed => exact absurd rfl hwrite

theorem serials_not_admitted {sublistMax : ℕ} {state : HubState}
    {subdev : HubSubdev} {write : HubWrite}
    (hnot : ¬(write ≠ .failed ∧ state.Admits sublistMax subdev)) :
    (state.hubAddDo sublistMax subdev write).2.serials = state.serials := by
  unfold hubAddDo
  split_ifs with hlisted hfull
  · rfl
  · rfl
  · have hadmits : state.Admits sublistMax subdev :=
      ⟨Bool.eq_false_of_not_eq_true hlisted, Nat.lt_of_not_le hfull⟩
    cases write with
    | stored | retried => exact absurd ⟨nofun, hadmits⟩ hnot
    | failed => rfl

theorem locked_written {state : HubState} (hlocked : state.locked = false)
    {hublist : List HubEntry} {follow : HubState → HubState}
    (hfollow : ∀ state, (follow state).locked = state.locked)
    (write : HubWrite) :
    (state.writeHublist write hublist follow).2.locked = false :=
  @writeHublist_keeps (fun next => next.locked = false) state hublist follow
    hlocked hlocked ((hfollow _).trans hlocked) write

theorem locked_step {sublistMax : ℕ} {state next : HubState}
    {event : HubEvent} (hstep : state.step sublistMax event = some next)
    (hclean : ∀ write, event = .clean write → write = .stored)
    (hlocked : state.locked = false) : next.locked = false := by
  cases event with
  | startUp =>
      rcases Option.map_eq_some_iff.mp hstep with ⟨visited, _, hnext⟩
      rw [← hnext]
      rfl
  | clean write =>
      have hcleaned := (unlocked_eq_some hstep).2
      rcases Option.map_eq_some_iff.mp hcleaned with ⟨visited, _, hnext⟩
      rw [← hnext, hclean write rfl]
      exact hlocked
  | add subdev write =>
      rw [← Option.some.inj (unlocked_eq_some hstep).2]
      unfold hubAddDo
      split_ifs
      · exact hlocked
      · exact hlocked
      · apply locked_written hlocked
        exact fun _ => rfl
  | del sn write | authFailure sn write =>
      rw [← Option.some.inj (unlocked_eq_some hstep).2]
      change (state.hubDelDo sn write).2.locked = false
      unfold hubDelDo
      cases state.hublist.find? (hasSubdevSn sn) with
      | none => exact hlocked
      | some entry =>
          apply locked_written hlocked
          intro written
          split_ifs <;> rfl
  | verUpdate sn ver write =>
      rw [← Option.some.inj (unlocked_eq_some hstep).2]
      unfold hubVerUpdateDo
      cases state.hublist.find? (hasSubdevSn sn) with
      | none => exact hlocked
      | some entry =>
          apply locked_written hlocked
          exact fun _ => rfl
  | statusUpdate sn online write =>
      rw [← Option.some.inj (unlocked_eq_some hstep).2]
      unfold hubStatusUpdateDo
      cases state.hublist.find? (hasSubdevSn sn) with
      | none => exact hlocked
      | some entry =>
          apply locked_written hlocked
          exact fun _ => rfl
  | authPassed sn write =>
      rw [← Option.some.inj (unlocked_eq_some hstep).2]
      unfold hubSubdevAuthPassed
      cases state.hublist.find? (hasSubdevSn sn) with
      | none => exact hlocked
      | some entry =>
          apply locked_written hlocked
          exact fun _ => rfl

theorem EnumSound.step {sublistMax : ℕ} {state next : HubState}
    (hsound : state.EnumSound sublistMax) {event : HubEvent}
    (hcondition : state.NextSound sublistMax event)
    (hstep : state.step sublistMax event = some next) :
    next.EnumSound sublistMax := by
  have hlist := hsound.toListSound.step hstep
  have hlocked : next.locked = false := by
    apply locked_step hstep _ hsound.unlocked
    rintro write rfl
    exact hcondition
  refine ⟨hlist, hlocked, ?_⟩
  cases event with
  | add subdev write =>
      rw [← Option.some.inj (unlocked_eq_some hstep).2]
      by_cases hadmitted : write ≠ .failed ∧ state.Admits sublistMax subdev
      · rw [serials_admitted hadmitted.1 hadmitted.2]
        intro hempty
        rcases List.mem_append.mp hempty with hold | hnew
        · exact hsound.named hold
        · exact hcondition hadmitted.1 hadmitted.2
            (List.mem_singleton.mp hnew).symm
      · rw [serials_not_admitted hadmitted]
        exact hsound.named
  | _ =>
      intro hempty
      exact hsound.named (serials_step_subset hstep nofun hempty)

/-- An operation outside the condition leaves a state whose enumeration does
not end. -/
theorem EnumSound.not_enumerates {sublistMax : ℕ} {state : HubState}
    (hsound : state.EnumSound sublistMax) {event : HubEvent}
    (hnot : ¬state.NextSound sublistMax event) :
    ∃ next, state.step sublistMax event = some next ∧
      ¬next.Enumerates := by
  cases event with
  | add subdev write =>
      unfold NextSound at hnot
      push Not at hnot
      have hstep : state.step sublistMax (.add subdev write) =
          some (state.hubAddDo sublistMax subdev write).2 := by
        simp [HubState.step, hsound.unlocked]
      have hdistinct := (hsound.toListSound.step hstep).distinct
      refine ⟨_, hstep, ?_⟩
      rw [enumerates_iff hdistinct, serials_admitted hnot.1 hnot.2.1,
        hnot.2.2]
      simp
  | clean write =>
      have hlocked : (state.hubCleanDo state.hublist write).2.locked =
          true := by
        cases write with
        | stored => exact absurd rfl hnot
        | retried | failed => rfl
      have henumerated := enumerated_of_named hsound.distinct hsound.named
      refine ⟨(state.hubCleanDo state.hublist write).2, ?_, ?_⟩
      · simp [HubState.step, hsound.unlocked, henumerated]
      · rintro ⟨calls, hvisited⟩
        simp [subdevsVisited, hlocked] at hvisited
  | _ => exact absurd trivial hnot

/-! ## Runs -/

/-- Over any sequence of operations every state can be enumerated exactly when
each of them meets the condition. -/
theorem enumerates_along_iff_nextSound
    (sublistMax : ℕ) (events : List HubEvent) :
    StepSystem.Along (step sublistMax) Enumerates init events ↔
      StepSystem.StepsMeet (step sublistMax) (NextSound sublistMax) init
        events := by
  apply StepSystem.along_iff_stepsMeet
  · exact fun state (hsound : state.EnumSound sublistMax) => hsound.enumerates
  · intro state event next hsound hcondition hstep
    exact hsound.step hcondition hstep
  · intro state event hsound hnot
    exact hsound.not_enumerates hnot
  · exact ⟨listSound_init sublistMax, rfl, List.not_mem_nil⟩

/-- A sub-device without a serial number sends the enumeration back to the
start, and a clean whose write fails blocks it. -/
theorem enumeration_does_not_end :
    let plug : HubSubdev :=
      { authm := 0, type := ⟨"plug".toList, by decide⟩
        sn := ⟨"A1".toList, by decide⟩, vcode := ⟨[], by decide⟩
        ver := ⟨"1.0".toList, by decide⟩, uuid := ⟨[], by decide⟩
        sta := true, access := false }
    let unnamed : HubSubdev := { plug with sn := ⟨[], by decide⟩ }
    ¬StepSystem.Along (step 8) Enumerates init
        [.add plug .stored, .add unnamed .stored] ∧
      ¬StepSystem.Along (step 8) Enumerates init [.clean .failed] := by
  intro plug unnamed
  constructor
  · intro halong
    have hends := halong [.add plug .stored, .add unnamed .stored] [] _ rfl rfl
    rw [enumerates_iff (by decide)] at hends
    exact hends.2 (by decide)
  · intro halong
    have hends := halong [.clean .failed] [] _ rfl rfl
    rw [enumerates_iff (by decide)] at hends
    exact absurd hends.1 (by decide)

end HubState

end EziotSdk
