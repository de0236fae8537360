import EziotSdk.FirstMatch
import EziotSdk.SoftwareTimers

/-!
# Resets and changes of a period

`ez_timer_reset` and `ez_timer_change_period` write the count of one timer of
the list.  Their users think of the time at which a timer expires; the file
runs these plans next to the list.
-/

namespace EziotSdk

open FirstMatch

/-- `ez_timer_reset`, on the timer it addresses. -/
def EzTimer.reset (timer : EzTimer) : EzTimer := timer.reloaded

/-- `ez_timer_change_period`, on the timer it addresses. -/
def EzTimer.changePeriod (newTimeOut : ℕ) (timer : EzTimer) : EzTimer :=
  let timer := { timer with timeOut := newTimeOut }
  if ((newTimeOut / 100 : ℕ) : ℤ) ≤ timer.countDown then
    { timer with countDown := ((newTimeOut / 100 : ℕ) : ℤ) }
  else
    { timer with
      countDown := timer.countDown +
        ((newTimeOut : ℤ) - timer.timeOut).tdiv 100 }

/-- A timer as its user sees it: the time of its next expiry and its period,
both in milliseconds. -/
structure TimerPlan where
  id : ℕ
  reload : Bool
  period : ℕ
  expiry : ℤ
  deriving DecidableEq

namespace TimerPlan

def afterPass (now : ℤ) (plan : TimerPlan) : Option TimerPlan :=
  if plan.expiry = now then
    if plan.reload then
      some { plan with expiry := now + max 100 plan.period }
    else none
  else some plan

def reset (now : ℤ) (plan : TimerPlan) : TimerPlan :=
  { plan with expiry := now + plan.period }

/-- From period `p` to `q`: later by `q - p`, or `q` from now when the
remaining time is not shorter than `q`. -/
def changePeriod (now : ℤ) (newPeriod : ℕ) (plan : TimerPlan) : TimerPlan :=
  if plan.expiry - now < newPeriod then
    { plan with
      period := newPeriod
      expiry := plan.expiry + (newPeriod - plan.period) }
  else { plan with period := newPeriod, expiry := now + newPeriod }

/-- A change of the timer with an identifier and of no other. -/
def onlyAt (id : ℕ) (change : TimerPlan → TimerPlan) (plan : TimerPlan) :
    TimerPlan :=
  if plan.id = id then change plan else plan

end TimerPlan

/-- The plan that a timer follows after a number of passes. -/
def EzTimer.plan (passes : ℕ) (timer : EzTimer) : TimerPlan :=
  ⟨timer.id, timer.reload, timer.timeOut, 100 * (passes + timer.countDown)⟩

/-- Timers with different identifiers that are all counting, with periods that
are multiples of 100 ms. -/
structure PendingTimers where
  timers : List EzTimer
  distinct : (timers.map EzTimer.id).Nodup
  pending : ∀ timer ∈ timers, 0 ≤ timer.countDown
  whole : ∀ timer ∈ timers, 100 ∣ timer.timeOut

/-- The list of the source next to the plans of its timers, with what each
pass fires. -/
structure PlannedTimers where
  timers : List EzTimer
  passes : ℕ
  fired : List (List ℕ)
  plans : List TimerPlan
  planned : List (List ℕ)
  deriving DecidableEq

inductive PeriodEvent where
  | pass
  | reset (id : ℕ)
  | changePeriod (id passes : ℕ)
  deriving DecidableEq

namespace PlannedTimers

def start (list : PendingTimers) : PlannedTimers :=
  ⟨list.timers, 0, [], list.timers.map (EzTimer.plan 0), []⟩

def now (run : PlannedTimers) : ℤ := 100 * run.passes

def step (run : PlannedTimers) : PeriodEvent → Option PlannedTimers
  | .pass => some
      { timers := (timerPass run.timers).1
        passes := run.passes + 1
        fired := run.fired ++ [(timerPass run.timers).2]
        plans := run.plans.filterMap (TimerPlan.afterPass run.now)
        planned := run.planned ++
          [(run.plans.filter (·.expiry = run.now)).map TimerPlan.id] }
  | .reset id => some
      { run with
        timers := updateFirst (·.id = id) EzTimer.reset run.timers
        plans := run.plans.map (.onlyAt id (.reset run.now)) }
  | .changePeriod id passes => some
      { run with
        timers := updateFirst (·.id = id) (.changePeriod (100 * passes))
          run.timers
        plans := run.plans.map
          (.onlyAt id (.changePeriod run.now (100 * passes))) }

structure AsPlanned (run : PlannedTimers) : Prop where
  plans : run.timers.map (EzTimer.plan run.passes) = run.plans
  fired : run.fired = run.planned

/-- A pass is sound, and a period is changed only while what remains is no
shorter than the new one (or to what it is). -/
def EventSound (run : PlannedTimers) : PeriodEvent → Prop
  | .pass => PassSound run.timers
  | .reset _ => True
  | .changePeriod id passes =>
      ∀ timer ∈ run.timers, timer.id = id →
        timer.period = passes ∨ (passes : ℤ) ≤ timer.countDown

end PlannedTimers

theorem plan_afterPass {timer : EzTimer} (hwhole : 100 ∣ timer.timeOut)
    (passes : ℕ) :
    timer.afterPass.map (EzTimer.plan (passes + 1)) =
      (timer.plan passes).afterPass (100 * passes) := by
  have hexpiry : (timer.plan passes).expiry = 100 * passes ↔
      timer.countDown = 0 := by
    change 100 * ((passes : ℤ) + timer.countDown) = 100 * passes ↔ _
    omega
  unfold EzTimer.afterPass TimerPlan.afterPass
  by_cases hzero : timer.countDown = 0
  · rw [if_pos hzero, if_pos (hexpiry.mpr hzero)]
    change (if timer.reload = true then _ else _ : Option EzTimer).map _ =
      if timer.reload = true then _ else _
    cases hreload : timer.reload with
    | false => rfl
    | true =>
        simp only [if_true, Option.map_some, EzTimer.plan,
          Option.some.injEq, TimerPlan.mk.injEq, true_and, EzTimer.period,
          hreload]
        omega
  · rw [if_neg hzero, if_neg (fun hnow => hzero (hexpiry.mp hnow))]
    simp only [Option.map_some, EzTimer.plan, Option.some.injEq,
      TimerPlan.mk.injEq, true_and]
    omega

theorem plan_reset {timer : EzTimer} (hwhole : 100 ∣ timer.timeOut)
    (passes : ℕ) :
    timer.reset.plan passes = (timer.plan passes).reset (100 * passes) := by
  simp only [EzTimer.reset, EzTimer.reloaded, EzTimer.plan, TimerPlan.reset,
    TimerPlan.mk.injEq, true_and, EzTimer.period]
  omega

/-- A period is changed as planned exactly if it stays the same or the
remaining time is cut. -/
theorem plan_changePeriod_iff {timer : EzTimer}
    (hwhole : 100 ∣ timer.timeOut) (passes newPasses : ℕ) :
    (timer.changePeriod (100 * newPasses)).plan passes =
        (timer.plan passes).changePeriod (100 * passes) (100 * newPasses) ↔
      timer.period = newPasses ∨ (newPasses : ℤ) ≤ timer.countDown := by
  have hperiod : 100 * newPasses / 100 = newPasses := by omega
  have hremaining : (timer.plan passes).expiry - 100 * passes <
      ((100 * newPasses : ℕ) : ℤ) ↔ ¬ (newPasses : ℤ) ≤ timer.countDown := by
    change 100 * ((passes : ℤ) + timer.countDown) - 100 * passes < _ ↔ _
    omega
  unfold EzTimer.changePeriod TimerPlan.changePeriod
  simp only [hperiod, hremaining]
  by_cases hle : (newPasses : ℤ) ≤ timer.countDown
  · simp only [hle, if_true, not_true, if_false, or_true, iff_true,
      EzTimer.plan, TimerPlan.mk.injEq, true_and]
    omega
  · -- The source has written the new time-out over the old one by now.
    simp only [hle, if_false, not_false_eq_true, if_true, or_false,
      EzTimer.plan, TimerPlan.mk.injEq, true_and, sub_self, Int.zero_tdiv,
      add_zero, EzTimer.period]
    omega

theorem plan_injective (passes : ℕ) :
    Function.Injective (EzTimer.plan passes) := by
  intro timer other hplan
  rw [EzTimer.plan, EzTimer.plan, TimerPlan.mk.injEq] at hplan
  rcases hplan with ⟨hid, hreload, hperiod, hexpiry⟩
  have hcount : timer.countDown = other.countDown := by omega
  cases timer
  cases other
  rw [EzTimer.mk.injEq]
  exact ⟨hid, hreload, hperiod, hcount⟩

namespace PlannedTimers

/-- What the runs keep while they go as planned. -/
structure Invariant (run : PlannedTimers) : Prop where
  planned : run.AsPlanned
  distinct : (run.timers.map EzTimer.id).Nodup
  pending : ∀ timer ∈ run.timers, 0 ≤ timer.countDown
  whole : ∀ timer ∈ run.timers, 100 ∣ timer.timeOut

theorem invariant_start (list : PendingTimers) : (start list).Invariant :=
  ⟨⟨rfl, rfl⟩, list.distinct, list.pending, list.whole⟩

/-- A pass over the plans is the pass that treats the timers one by one. -/
theorem plans_afterPass {run : PlannedTimers} (hrun : run.Invariant) :
    run.plans.filterMap (TimerPlan.afterPass run.now) =
        (independentPass run.timers).1.map
          (EzTimer.plan (run.passes + 1)) ∧
      (run.plans.filter (·.expiry = run.now)).map TimerPlan.id =
        (independentPass run.timers).2 := by
  rw [← hrun.planned.plans, independentPass]
  constructor
  · rw [List.filterMap_map, List.map_filterMap]
    apply List.filterMap_congr
    intro timer hmem
    exact (plan_afterPass (hrun.whole timer hmem) run.passes).symm
  · rw [List.filter_map, List.map_map]
    have hdue : ∀ timer ∈ run.timers,
        ((fun plan : TimerPlan => decide (plan.expiry = run.now)) ∘
          EzTimer.plan run.passes) timer = timer.dueNow := by
      intro timer _
      apply decide_eq_decide.mpr
      change 100 * ((run.passes : ℤ) + timer.countDown) = 100 * run.passes ↔
        _
      omega
    rw [List.filter_congr hdue]
    rfl

theorem asPlanned_pass_iff {run next : PlannedTimers}
    (hrun : run.Invariant) (hstep : run.step .pass = some next) :
    next.AsPlanned ↔ PassSound run.timers := by
  rcases plans_afterPass hrun with ⟨hplans, hids⟩
  cases hstep
  rw [← timerPass_eq_iff hrun.pending, Prod.ext_iff]
  constructor
  · rintro ⟨hnext, hfired⟩
    change (timerPass run.timers).1.map _ = run.plans.filterMap _ at hnext
    change run.fired ++ [_] = run.planned ++ [_] at hfired
    rw [hplans] at hnext
    rw [hids, hrun.planned.fired, List.append_right_inj,
      List.singleton_inj] at hfired
    exact ⟨(plan_injective _).list_map hnext, hfired⟩
  · rintro ⟨hnext, hfired⟩
    constructor
    · change (timerPass run.timers).1.map _ = run.plans.filterMap _
      rw [hplans, hnext]
    · change run.fired ++ [_] = run.planned ++ [_]
      rw [hids, hrun.planned.fired, hfired]

theorem afterPass_ids (timers : List EzTimer) :
    ((timers.filterMap EzTimer.afterPass).map EzTimer.id).Sublist
      (timers.map EzTimer.id) := by
  induction timers with
  | nil => exact List.Sublist.refl []
  | cons timer rest ih =>
      rw [List.filterMap_cons, List.map_cons]
      cases hafter : timer.afterPass with
      | none => exact ih.cons timer.id
      | some next =>
          have hid : next.id = timer.id := by
            unfold EzTimer.afterPass at hafter
            split_ifs at hafter
            · cases hafter
              rfl
            · cases hafter
              rfl
          rw [List.map_cons, hid]
          exact ih.cons_cons timer.id

theorem invariant_pass {run next : PlannedTimers} (hrun : run.Invariant)
    (hsound : PassSound run.timers) (hstep : run.step .pass = some next) :
    next.Invariant := by
  have hplanned := (asPlanned_pass_iff hrun hstep).mpr hsound
  have hnext : next.timers = run.timers.filterMap EzTimer.afterPass := by
    cases hstep
    change (timerPass run.timers).1 = _
    rw [(timerPass_eq_iff hrun.pending).mpr hsound]
    rfl
  have hall : ∀ timer ∈ next.timers, ∃ before ∈ run.timers,
      before.afterPass = some timer := by
    intro timer hmem
    rw [hnext, List.mem_filterMap] at hmem
    exact hmem
  refine ⟨hplanned, ?_, ?_, ?_⟩
  · rw [hnext]
    exact hrun.distinct.sublist (afterPass_ids run.timers)
  · intro timer hmem
    rcases hall timer hmem with ⟨before, hbefore, hafter⟩
    have hpending := hrun.pending before hbefore
    unfold EzTimer.afterPass at hafter
    split_ifs at hafter
    · cases hafter
      simp only
      omega
    · cases hafter
      simp only
      omega
  · intro timer hmem
    rcases hall timer hmem with ⟨before, hbefore, hafter⟩
    have hwhole := hrun.whole before hbefore
    unfold EzTimer.afterPass at hafter
    split_ifs at hafter
    · cases hafter
      exact hwhole
    · cases hafter
      exact hwhole

/-- One timer is changed in the list and in the plans. -/
theorem map_updateFirst_iff {run : PlannedTimers} (hrun : run.Invariant)
    (id : ℕ) (change : EzTimer → EzTimer) (planned : TimerPlan → TimerPlan) :
    (updateFirst (·.id = id) change run.timers).map
          (EzTimer.plan run.passes) =
        run.plans.map (.onlyAt id planned) ↔
      ∀ timer ∈ run.timers, timer.id = id →
        (change timer).plan run.passes =
          planned (timer.plan run.passes) := by
  rw [updateFirst_key_eq_map hrun.distinct, ← hrun.planned.plans,
    List.map_map, List.map_map, List.map_inj_left]
  apply forall₂_congr
  intro timer _
  simp only [Function.comp_apply, TimerPlan.onlyAt]
  change _ = (if timer.id = id then _ else _) ↔ _
  by_cases hid : timer.id = id
  · simp only [hid, if_true, forall_const]
  · simp only [hid, if_false, false_imp_iff]

/-- What a change of one timer keeps besides the plans. -/
theorem invariant_update {run next : PlannedTimers} (hrun : run.Invariant)
    (hplanned : next.AsPlanned) {id : ℕ} {change : EzTimer → EzTimer}
    (htimers : next.timers = updateFirst (·.id = id) change run.timers)
    (hid : ∀ timer : EzTimer, (change timer).id = timer.id)
    (hchange : ∀ timer ∈ run.timers, timer.id = id →
      0 ≤ (change timer).countDown ∧ 100 ∣ (change timer).timeOut) :
    next.Invariant := by
  rw [updateFirst_key_eq_map hrun.distinct] at htimers
  have hall : ∀ timer ∈ next.timers,
      0 ≤ timer.countDown ∧ 100 ∣ timer.timeOut := by
    intro timer hmem
    rw [htimers, List.mem_map] at hmem
    rcases hmem with ⟨before, hbefore, rfl⟩
    by_cases hsame : before.id = id
    · rw [if_pos hsame]
      exact hchange before hbefore hsame
    · rw [if_neg hsame]
      exact ⟨hrun.pending before hbefore, hrun.whole before hbefore⟩
  refine ⟨hplanned, ?_, fun timer hmem => (hall timer hmem).1,
    fun timer hmem => (hall timer hmem).2⟩
  have hids : next.timers.map EzTimer.id = run.timers.map EzTimer.id := by
    rw [htimers, List.map_map]
    apply List.map_congr_left
    intro timer _
    rw [Function.comp_apply, apply_ite EzTimer.id, hid, ite_self]
  rw [hids]
  exact hrun.distinct

theorem invariant_reset {run next : PlannedTimers} (hrun : run.Invariant)
    {id : ℕ} (hstep : run.step (.reset id) = some next) :
    next.Invariant := by
  have htimers : next.timers =
      updateFirst (·.id = id) EzTimer.reset run.timers := by
    cases hstep
    rfl
  have hplanned : next.AsPlanned := by
    cases hstep
    refine ⟨?_, hrun.planned.fired⟩
    apply (map_updateFirst_iff hrun id _ _).mpr
    intro timer hmem _
    exact plan_reset (hrun.whole timer hmem) run.passes
  apply invariant_update hrun hplanned htimers (fun _ => rfl)
  intro timer hmem _
  exact ⟨Int.natCast_nonneg _, hrun.whole timer hmem⟩

theorem asPlanned_changePeriod_iff {run next : PlannedTimers}
    (hrun : run.Invariant) {id passes : ℕ}
    (hstep : run.step (.changePeriod id passes) = some next) :
    next.AsPlanned ↔ run.EventSound (.changePeriod id passes) := by
  have hplans : next.AsPlanned ↔
      (updateFirst (·.id = id) (.changePeriod (100 * passes))
          run.timers).map (EzTimer.plan run.passes) =
        run.plans.map
          (.onlyAt id (.changePeriod run.now (100 * passes))) := by
    cases hstep
    constructor
    · intro hnext
      exact hnext.plans
    · intro hnext
      exact ⟨hnext, hrun.planned.fired⟩
  rw [hplans, map_updateFirst_iff hrun]
  apply forall₂_congr
  intro timer hmem
  exact imp_congr_right fun _ =>
    plan_changePeriod_iff (hrun.whole timer hmem) run.passes passes

theorem invariant_changePeriod {run next : PlannedTimers}
    (hrun : run.Invariant) {id passes : ℕ}
    (hsound : run.EventSound (.changePeriod id passes))
    (hstep : run.step (.changePeriod id passes) = some next) :
    next.Invariant := by
  have hplanned := (asPlanned_changePeriod_iff hrun hstep).mpr hsound
  have hid : ∀ timer : EzTimer,
      (timer.changePeriod (100 * passes)).id = timer.id := by
    intro timer
    unfold EzTimer.changePeriod
    dsimp only
    split_ifs <;> rfl
  cases hstep
  apply invariant_update hrun hplanned rfl hid
  intro timer hmem _
  have hpending := hrun.pending timer hmem
  unfold EzTimer.changePeriod
  dsimp only
  split_ifs
  · exact ⟨Int.natCast_nonneg _, Nat.dvd_mul_right 100 passes⟩
  · rw [sub_self, Int.zero_tdiv, add_zero]
    exact ⟨hpending, Nat.dvd_mul_right 100 passes⟩

end PlannedTimers

/-- Timers expire as planned after resets and changes of the period, all along
a run, exactly if every event of it is sound. -/
theorem timerPeriods_asPlanned_iff
    (list : PendingTimers) (events : List PeriodEvent) :
    StepSystem.Along PlannedTimers.step PlannedTimers.AsPlanned
        (.start list) events ↔
      StepSystem.StepsMeet PlannedTimers.step PlannedTimers.EventSound
        (.start list) events := by
  have hplanned : ∀ run : PlannedTimers, run.Invariant → run.AsPlanned :=
    fun _ hrun => hrun.planned
  refine StepSystem.along_iff_stepsMeet hplanned ?_ ?_
    (PlannedTimers.invariant_start list)
  · intro run event next hrun hsound hstep
    cases event with
    | pass => exact PlannedTimers.invariant_pass hrun hsound hstep
    | reset id => exact PlannedTimers.invariant_reset hrun hstep
    | changePeriod id passes =>
        exact PlannedTimers.invariant_changePeriod hrun hsound hstep
  · intro run event hrun hunsound
    cases event with
    | pass =>
        refine ⟨_, rfl, fun hnext => hunsound ?_⟩
        exact (PlannedTimers.asPlanned_pass_iff hrun rfl).mp hnext
    | reset id => exact absurd trivial hunsound
    | changePeriod id passes =>
        refine ⟨_, rfl, fun hnext => hunsound ?_⟩
        exact (PlannedTimers.asPlanned_changePeriod_iff hrun rfl).mp hnext

instance : DecidablePred PlannedTimers.AsPlanned := fun run =>
  decidable_of_iff
    (run.timers.map (EzTimer.plan run.passes) = run.plans ∧
      run.fired = run.planned)
    ⟨fun hboth => ⟨hboth.1, hboth.2⟩, fun hrun => ⟨hrun.plans, hrun.fired⟩⟩

def secondTimers : List EzTimer := [⟨1, true, 1000, 3⟩]

theorem secondTimers_distinct : (secondTimers.map EzTimer.id).Nodup := by
  decide

theorem secondTimers_pending :
    ∀ timer ∈ secondTimers, 0 ≤ timer.countDown := by
  decide

theorem secondTimers_whole : ∀ timer ∈ secondTimers, 100 ∣ timer.timeOut := by
  decide

/-- A timer of one second with 300 ms to go. -/
def secondTimer : PendingTimers :=
  ⟨secondTimers, secondTimers_distinct, secondTimers_pending,
    secondTimers_whole⟩

/-- A period that is lengthened does not move the pending expiry. -/
theorem lengthened_period_lost :
    ¬ StepSystem.Along PlannedTimers.step PlannedTimers.AsPlanned
      (.start secondTimer) [.changePeriod 1 20] :=
  StepSystem.not_along_of_exec (by decide)

end EziotSdk
