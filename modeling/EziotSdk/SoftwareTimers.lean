import EziotSdk.StepSystem

/-!
# Software timers

One thread walks a list of timers every 100 ms: `timer_routine` counts each one
down, fires the ones that are due, and reloads or removes them.  The file
states what the walk does to each timer when it treats the timers one by one,
when the walk of the source agrees with that, and what follows for runs that
create timers.
-/

namespace EziotSdk

/-- `ez_timer_struct`; the callback is known by the identifier. -/
structure EzTimer where
  id : ℕ
  reload : Bool
  timeOut : ℕ
  countDown : ℤ
  deriving DecidableEq

namespace EzTimer

/-- The period in passes: `time_out / 100`. -/
def period (timer : EzTimer) : ℕ := timer.timeOut / 100

def countedDown (timer : EzTimer) : EzTimer :=
  if 0 ≤ timer.countDown then
    { timer with countDown := timer.countDown - 1 }
  else timer

def reloaded (timer : EzTimer) : EzTimer :=
  { timer with countDown := timer.period }

end EzTimer

/-- One walk of `timer_routine` over the list, with the identifiers of the
timers whose callbacks it calls.  The removal of a timer leaves the loop. -/
def timerPass : List EzTimer → List EzTimer × List ℕ
  | [] => ([], [])
  | node :: rest =>
      if node.countDown = 0 then
        if node.reload then
          (node.reloaded.countedDown :: (timerPass rest).1,
            node.id :: (timerPass rest).2)
        else (rest, [node.id])
      else (node.countedDown :: (timerPass rest).1, (timerPass rest).2)

/-! ## Timers one by one -/

namespace EzTimer

/-- What a pass does to one timer: a due one starts its next period, of one
pass at least, or is gone. -/
def afterPass (timer : EzTimer) : Option EzTimer :=
  if timer.countDown = 0 then
    if timer.reload then
      some { timer with countDown := max 1 timer.period - 1 }
    else none
  else some { timer with countDown := timer.countDown - 1 }

def dueNow (timer : EzTimer) : Bool := timer.countDown = 0

theorem reloaded_countedDown (timer : EzTimer) :
    timer.reloaded.countedDown =
      { timer with countDown := (timer.period : ℤ) - 1 } := by
  have hpending : 0 ≤ timer.reloaded.countDown := Int.natCast_nonneg _
  rw [countedDown, if_pos hpending]
  rfl

theorem countedDown_of_pending {timer : EzTimer}
    (hpending : 0 ≤ timer.countDown) :
    timer.countedDown = { timer with countDown := timer.countDown - 1 } :=
  if_pos hpending

end EzTimer

/-- The pass in which the timers do not take part in each other. -/
def independentPass (timers : List EzTimer) : List EzTimer × List ℕ :=
  (timers.filterMap EzTimer.afterPass,
    (timers.filter EzTimer.dueNow).map EzTimer.id)

/-- A due timer that is not reloaded is the last one, and the time-out of a
due timer that is reloaded takes one pass at least. -/
def PassSound (timers : List EzTimer) : Prop :=
  ∀ before node after, timers = before ++ node :: after →
    node.countDown = 0 →
      if node.reload then 1 ≤ node.period else after = []

theorem passSound_cons_iff {node : EzTimer} {rest : List EzTimer} :
    PassSound (node :: rest) ↔
      (node.countDown = 0 →
        if node.reload then 1 ≤ node.period else rest = []) ∧
      PassSound rest := by
  constructor
  · intro hsound
    constructor
    · exact hsound [] node rest rfl
    · intro before other after hsplit
      apply hsound (node :: before) other after
      rw [hsplit, List.cons_append]
  · rintro ⟨hnode, hrest⟩ before other after hsplit
    cases before with
    | nil =>
        rw [List.nil_append, List.cons.injEq] at hsplit
        rcases hsplit with ⟨rfl, rfl⟩
        exact hnode
    | cons first more =>
        rw [List.cons_append, List.cons.injEq] at hsplit
        exact hrest more other after hsplit.2

theorem independentPass_cons (node : EzTimer) (rest : List EzTimer) :
    independentPass (node :: rest) =
      (node.afterPass.toList ++ (independentPass rest).1,
        (if node.dueNow then [node.id] else []) ++
          (independentPass rest).2) := by
  unfold independentPass
  rw [List.filterMap_cons, List.filter_cons]
  apply Prod.ext
  · cases node.afterPass <;> rfl
  · cases node.dueNow <;> rfl

/-- A pass leaves no list as it is. -/
theorem independentPass_ne_self {timers : List EzTimer}
    (htimers : timers ≠ []) : independentPass timers ≠ (timers, []) := by
  intro hself
  cases timers with
  | nil => exact htimers rfl
  | cons node rest =>
      rw [independentPass_cons, Prod.mk.injEq] at hself
      rcases hself with ⟨hafter, hdue⟩
      have hnot : ¬ node.countDown = 0 := by
        intro hzero
        simp [EzTimer.dueNow, hzero] at hdue
      rw [EzTimer.afterPass, if_neg hnot, Option.toList_some,
        List.cons_append, List.cons.injEq] at hafter
      have hcount := congrArg EzTimer.countDown hafter.1
      change node.countDown - 1 = node.countDown at hcount
      omega

/-- The walk treats the timers one by one exactly if the pass is sound. -/
theorem timerPass_eq_iff {timers : List EzTimer}
    (hpending : ∀ timer ∈ timers, 0 ≤ timer.countDown) :
    timerPass timers = independentPass timers ↔ PassSound timers := by
  induction timers with
  | nil =>
      constructor
      · intro _ before node after hsplit
        simp at hsplit
      · intro _
        rfl
  | cons node rest ih =>
      rw [List.forall_mem_cons] at hpending
      rcases hpending with ⟨hnode, hrest⟩
      rw [passSound_cons_iff, ← ih hrest, independentPass_cons]
      simp only [timerPass, EzTimer.afterPass, EzTimer.dueNow,
        decide_eq_true_eq]
      by_cases hzero : node.countDown = 0
      · cases hreload : node.reload with
        | false =>
            simp only [hzero, if_true, Bool.false_eq_true, if_false,
              Option.toList_none, List.nil_append, forall_const]
            constructor
            · intro hsame
              have hself : rest = [] := by
                by_contra hne
                apply independentPass_ne_self hne
                rw [Prod.mk.injEq] at hsame
                apply Prod.ext
                · exact hsame.1.symm
                · simpa using hsame.2
              subst hself
              exact ⟨rfl, rfl⟩
            · rintro ⟨rfl, -⟩
              rfl
        | true =>
            have hcount : (node.period : ℤ) - 1 =
                ((max 1 node.period : ℕ) : ℤ) - 1 ↔ 1 ≤ node.period := by
              omega
            simp only [hzero, if_true, Option.toList_some,
              List.singleton_append, forall_const,
              node.reloaded_countedDown, Prod.ext_iff, List.cons.injEq,
              EzTimer.mk.injEq, hreload, true_and, hcount]
            exact and_assoc
      · simp only [hzero, if_false, Option.toList_some,
          List.singleton_append, List.nil_append, false_imp_iff, true_and,
          EzTimer.countedDown_of_pending hnode, Prod.ext_iff,
          List.cons.injEq]

/-! ## Runs that create timers -/

/-- A timer as it is created, with the number of passes before that. -/
structure TimerBirth where
  id : ℕ
  reload : Bool
  timeOut : ℕ
  madeAt : ℕ
  deriving DecidableEq

namespace TimerBirth

/-- The pass at which the timer is due for the first time. -/
def first (birth : TimerBirth) : ℕ := birth.madeAt + birth.timeOut / 100

def cycle (birth : TimerBirth) : ℕ := max 1 (birth.timeOut / 100)

/-- The passes at which the timer fires, by its own time-out alone. -/
def Due (birth : TimerBirth) (pass : ℕ) : Prop :=
  pass = birth.first ∨
    birth.reload ∧ birth.first ≤ pass ∧ birth.cycle ∣ pass - birth.first

instance (birth : TimerBirth) (pass : ℕ) : Decidable (birth.Due pass) :=
  inferInstanceAs (Decidable (_ ∨ _))

/-- The timer before a pass: what is left of the first time-out or of the
present period; a timer that is not reloaded is gone after its pass. -/
def timerAt (birth : TimerBirth) (pass : ℕ) : Option EzTimer :=
  if pass ≤ birth.first then
    some ⟨birth.id, birth.reload, birth.timeOut,
      ((birth.first - pass : ℕ) : ℤ)⟩
  else if birth.reload then
    some ⟨birth.id, birth.reload, birth.timeOut,
      (((birth.cycle - (pass - birth.first) % birth.cycle) %
        birth.cycle : ℕ) : ℤ)⟩
  else none

end TimerBirth

/-- The list with its history: every timer made, and for each pass the timers
fired in it. -/
structure TimerRun where
  timers : List EzTimer
  nextId : ℕ
  passes : ℕ
  born : List TimerBirth
  fired : List (List ℕ)
  deriving DecidableEq

inductive TimerEvent where
  | create (timeOut : ℕ) (reload : Bool)
  | pass
  deriving DecidableEq

namespace TimerRun

def fresh : TimerRun := ⟨[], 1, 0, [], []⟩

/-- `ez_timer_create`. -/
def create (timeOut : ℕ) (reload : Bool) (run : TimerRun) : TimerRun :=
  { run with
    timers := run.timers ++
      [⟨run.nextId, reload, timeOut, ((timeOut / 100 : ℕ) : ℤ)⟩]
    nextId := run.nextId + 1
    born := run.born ++ [⟨run.nextId, reload, timeOut, run.passes⟩] }

def pass (run : TimerRun) : TimerRun :=
  { run with
    timers := (timerPass run.timers).1
    passes := run.passes + 1
    fired := run.fired ++ [(timerPass run.timers).2] }

def step (run : TimerRun) : TimerEvent → Option TimerRun
  | .create timeOut reload => some (run.create timeOut reload)
  | .pass => some run.pass

def dueIds (born : List TimerBirth) (pass : ℕ) : List ℕ :=
  (born.filter (TimerBirth.Due · pass)).map TimerBirth.id

/-- Each timer has fired at the passes that its own time-out determines, and
stands where its own time-out puts it. -/
structure OnSchedule (run : TimerRun) : Prop where
  timers : run.timers =
    run.born.filterMap (TimerBirth.timerAt · run.passes)
  fired : run.fired = (List.range run.passes).map (dueIds run.born)

def EventSound (run : TimerRun) : TimerEvent → Prop
  | .create _ _ => True
  | .pass => PassSound run.timers

end TimerRun

namespace TimerBirth

theorem timerAt_pending {birth : TimerBirth} {pass : ℕ} {timer : EzTimer}
    (htimer : birth.timerAt pass = some timer) : 0 ≤ timer.countDown := by
  unfold timerAt at htimer
  split_ifs at htimer
  · cases htimer
    exact Int.natCast_nonneg _
  · cases htimer
    exact Int.natCast_nonneg _

theorem timerAt_id {birth : TimerBirth} {pass : ℕ} {timer : EzTimer}
    (htimer : birth.timerAt pass = some timer) : timer.id = birth.id := by
  unfold timerAt at htimer
  split_ifs at htimer
  · cases htimer
    rfl
  · cases htimer
    rfl

theorem timerAt_madeAt (birth : TimerBirth) :
    birth.timerAt birth.madeAt =
      some ⟨birth.id, birth.reload, birth.timeOut,
        ((birth.timeOut / 100 : ℕ) : ℤ)⟩ := by
  have hfirst : birth.madeAt ≤ birth.first := Nat.le_add_right _ _
  rw [timerAt, if_pos hfirst, first, Nat.add_sub_cancel_left]

theorem cycle_pos (birth : TimerBirth) : 0 < birth.cycle :=
  Nat.lt_of_lt_of_le Nat.zero_lt_one (Nat.le_max_left _ _)

/-- The passes that are left of a period, counted down by one pass. -/
theorem left_of_period {cycle count : ℕ} (hcycle : 0 < cycle) :
    (count % cycle = 0 → (cycle - count % cycle) % cycle = 0 ∧
      (cycle - (count + 1) % cycle) % cycle = cycle - 1) ∧
    (count % cycle ≠ 0 → (cycle - count % cycle) % cycle =
      (cycle - (count + 1) % cycle) % cycle + 1) := by
  have hlt := Nat.mod_lt count hcycle
  constructor
  · intro hzero
    constructor
    · rw [hzero, Nat.sub_zero, Nat.mod_self]
    · rw [Nat.add_mod, hzero, Nat.zero_add, Nat.mod_mod]
      rcases Nat.lt_or_ge 1 cycle with hone | hone
      · rw [Nat.mod_eq_of_lt hone]
        exact Nat.mod_eq_of_lt (by omega)
      · have hcycleOne : cycle = 1 := by omega
        subst hcycleOne
        rfl
  · intro hne
    have hleft : (cycle - count % cycle) % cycle = cycle - count % cycle :=
      Nat.mod_eq_of_lt (by omega)
    rw [hleft]
    rcases Nat.lt_or_ge (count % cycle + 1) cycle with hnext | hnext
    · have hmod : (count + 1) % cycle = count % cycle + 1 := by
        rw [Nat.add_mod, Nat.mod_eq_of_lt (by omega : 1 < cycle)]
        exact Nat.mod_eq_of_lt hnext
      have hright : (cycle - (count % cycle + 1)) % cycle =
          cycle - (count % cycle + 1) := Nat.mod_eq_of_lt (by omega)
      rw [hmod, hright]
      omega
    · have hmod : (count + 1) % cycle = 0 := by
        rcases Nat.lt_or_ge 1 cycle with hone | hone
        · rw [Nat.add_mod, Nat.mod_eq_of_lt hone]
          have hlast : count % cycle + 1 = cycle := by omega
          rw [hlast, Nat.mod_self]
        · omega
      rw [hmod, Nat.sub_zero, Nat.mod_self]
      omega

/-- One timer's own step: from where it stands before a pass to where it
stands after it. -/
theorem timerAt_afterPass (birth : TimerBirth) (pass : ℕ) :
    (birth.timerAt pass).bind EzTimer.afterPass =
      birth.timerAt (pass + 1) := by
  have hleft (count : ℕ) := @left_of_period birth.cycle count birth.cycle_pos
  have hreloaded : ((birth.cycle - 1 : ℕ) : ℤ) = (birth.cycle : ℤ) - 1 :=
    Nat.cast_pred birth.cycle_pos
  unfold timerAt
  rcases Nat.lt_trichotomy pass birth.first with hlt | heq | hgt
  · rw [if_pos hlt.le, if_pos (Nat.succ_le_of_lt hlt), Option.bind_some,
      EzTimer.afterPass, if_neg]
    · simp only [Option.some.injEq, EzTimer.mk.injEq, true_and]
      omega
    · change ¬ ((birth.first - pass : ℕ) : ℤ) = 0
      omega
  · have hnext : pass + 1 - birth.first = 0 + 1 := by omega
    have hlater : ¬ pass + 1 ≤ birth.first := by omega
    rw [if_pos heq.le, if_neg hlater, Option.bind_some, EzTimer.afterPass,
      if_pos]
    · cases hreload : birth.reload with
      | false => rfl
      | true =>
          rw [if_pos rfl, if_pos rfl, hnext,
            ((hleft 0).1 (Nat.zero_mod _)).2, hreloaded]
          rfl
    · change ((birth.first - pass : ℕ) : ℤ) = 0
      omega
  · have hnext : pass + 1 - birth.first = pass - birth.first + 1 := by omega
    have hlater : ¬ pass + 1 ≤ birth.first := by omega
    rw [if_neg (Nat.not_le_of_lt hgt), if_neg hlater, hnext]
    cases hreload : birth.reload with
    | false => rfl
    | true =>
        rw [if_pos rfl, if_pos rfl, Option.bind_some, EzTimer.afterPass]
        by_cases hzero : (pass - birth.first) % birth.cycle = 0
        · rcases (hleft (pass - birth.first)).1 hzero with ⟨hnow, hthen⟩
          simp only [hnow, hthen, Nat.cast_zero, if_true, hreloaded]
          rfl
        · have hnow := (hleft (pass - birth.first)).2 hzero
          rw [hnow, if_neg]
          · simp only [Nat.cast_succ, add_sub_cancel_right]
          · exact Nat.cast_ne_zero.mpr (Nat.succ_ne_zero _)

theorem dueNow_iff {birth : TimerBirth} {pass : ℕ} :
    (birth.timerAt pass).any EzTimer.dueNow = true ↔ birth.Due pass := by
  have hcycle := birth.cycle_pos
  unfold timerAt Due
  rcases Nat.lt_trichotomy pass birth.first with hlt | heq | hgt
  · rw [if_pos hlt.le, Option.any_some]
    have hcount : ¬ ((birth.first - pass : ℕ) : ℤ) = 0 := by omega
    simp only [EzTimer.dueNow, hcount, decide_false, Bool.false_eq_true,
      false_iff]
    omega
  · rw [if_pos heq.le, Option.any_some]
    have hcount : ((birth.first - pass : ℕ) : ℤ) = 0 := by omega
    simp only [EzTimer.dueNow, hcount, decide_true, true_iff]
    exact Or.inl heq
  · rw [if_neg (Nat.not_le_of_lt hgt), or_iff_right (Nat.ne_of_gt hgt)]
    cases hreload : birth.reload with
    | false => simp
    | true =>
        rw [if_pos rfl, Option.any_some]
        have hmod := Nat.mod_lt (pass - birth.first) hcycle
        have hzero : (birth.cycle - (pass - birth.first) % birth.cycle) %
            birth.cycle = 0 ↔ birth.cycle ∣ pass - birth.first := by
          rw [Nat.dvd_iff_mod_eq_zero]
          constructor
          · intro hleft
            by_contra hne
            rw [Nat.mod_eq_of_lt (by omega)] at hleft
            omega
          · intro hdvd
            rw [hdvd, Nat.sub_zero, Nat.mod_self]
        simp only [EzTimer.dueNow, decide_eq_true_eq, Nat.cast_eq_zero,
          hzero, true_and]
        exact (and_iff_right hgt.le).symm

end TimerBirth

namespace TimerRun

theorem onSchedule_fresh : fresh.OnSchedule := ⟨rfl, rfl⟩

theorem onSchedule_create {run : TimerRun} (hschedule : run.OnSchedule)
    (timeOut : ℕ) (reload : Bool) :
    (run.create timeOut reload).OnSchedule := by
  constructor
  · change run.timers ++ _ =
      (run.born ++ [_]).filterMap (TimerBirth.timerAt · run.passes)
    rw [List.filterMap_append, ← hschedule.timers]
    have hnew := TimerBirth.timerAt_madeAt
      ⟨run.nextId, reload, timeOut, run.passes⟩
    simp only [List.filterMap_cons, List.filterMap_nil, hnew]
  · change run.fired = (List.range run.passes).map _
    rw [hschedule.fired]
    apply List.map_congr_left
    intro pass hpass
    rw [List.mem_range] at hpass
    -- A timer is not due before it is made.
    have hnew : ¬ TimerBirth.Due
        ⟨run.nextId, reload, timeOut, run.passes⟩ pass := by
      unfold TimerBirth.Due TimerBirth.first
      simp only
      omega
    change dueIds run.born pass = dueIds (run.born ++ [_]) pass
    rw [dueIds, dueIds, List.filter_append,
      List.filter_cons_of_neg (by simpa using hnew), List.filter_nil,
      List.append_nil]

theorem dueNow_ids (born : List TimerBirth) (pass : ℕ) :
    ((born.filterMap (TimerBirth.timerAt · pass)).filter
        EzTimer.dueNow).map EzTimer.id = dueIds born pass := by
  unfold dueIds
  induction born with
  | nil => rfl
  | cons birth rest ih =>
      have hdue := @TimerBirth.dueNow_iff birth pass
      cases htimer : birth.timerAt pass with
      | none =>
          rw [htimer, Option.any_none] at hdue
          have hnot : ¬ birth.Due pass := by simpa using hdue
          simp only [List.filterMap_cons, htimer]
          rw [List.filter_cons_of_neg (by simpa using hnot)]
          exact ih
      | some timer =>
          rw [htimer, Option.any_some] at hdue
          simp only [List.filterMap_cons, htimer]
          by_cases hnow : birth.Due pass
          · rw [List.filter_cons_of_pos (hdue.mpr hnow),
              List.filter_cons_of_pos (by simpa using hnow), List.map_cons,
              List.map_cons, ih, TimerBirth.timerAt_id htimer]
          · rw [List.filter_cons_of_neg (fun htrue => hnow (hdue.mp htrue)),
              List.filter_cons_of_neg (by simpa using hnow)]
            exact ih

/-- The pass keeps the schedule exactly if it treats the timers one by
one. -/
theorem onSchedule_pass_iff {run : TimerRun}
    (hschedule : run.OnSchedule) :
    run.pass.OnSchedule ↔ PassSound run.timers := by
  have hpending : ∀ timer ∈ run.timers, 0 ≤ timer.countDown := by
    intro timer hmem
    rw [hschedule.timers, List.mem_filterMap] at hmem
    rcases hmem with ⟨birth, -, htimer⟩
    exact TimerBirth.timerAt_pending htimer
  have htimers : (independentPass run.timers).1 =
      run.born.filterMap (TimerBirth.timerAt · (run.passes + 1)) := by
    rw [independentPass, hschedule.timers, List.filterMap_filterMap]
    exact List.filterMap_congr fun birth _ =>
      birth.timerAt_afterPass run.passes
  have hfired : (independentPass run.timers).2 =
      dueIds run.born run.passes := by
    rw [independentPass, hschedule.timers]
    exact dueNow_ids run.born run.passes
  rw [← timerPass_eq_iff hpending, Prod.ext_iff, htimers, hfired]
  constructor
  · rintro ⟨hnext, hlog⟩
    refine ⟨hnext, ?_⟩
    change run.fired ++ [_] =
      (List.range (run.passes + 1)).map (dueIds run.born) at hlog
    rw [List.range_succ, List.map_append, ← hschedule.fired] at hlog
    simpa using hlog
  · rintro ⟨hnext, hlog⟩
    refine ⟨hnext, ?_⟩
    change run.fired ++ [_] =
      (List.range (run.passes + 1)).map (dueIds run.born)
    rw [List.range_succ, List.map_append, ← hschedule.fired, hlog]
    rfl

end TimerRun

/-- Timers fire as their own time-outs determine, all along a run, exactly if
every pass of it is sound. -/
theorem softwareTimers_onSchedule_iff (events : List TimerEvent) :
    StepSystem.Along TimerRun.step TimerRun.OnSchedule .fresh events ↔
      StepSystem.StepsMeet TimerRun.step TimerRun.EventSound .fresh
        events := by
  apply StepSystem.along_iff_stepsMeet (fun run hrun => hrun) _ _
    TimerRun.onSchedule_fresh
  · intro run event next hrun hsound hstep
    cases event with
    | create timeOut reload =>
        cases hstep
        exact TimerRun.onSchedule_create hrun timeOut reload
    | pass =>
        cases hstep
        exact (TimerRun.onSchedule_pass_iff hrun).mpr hsound
  · intro run event hrun hunsound
    cases event with
    | create timeOut reload => exact absurd trivial hunsound
    | pass =>
        refine ⟨run.pass, rfl, ?_⟩
        exact fun hnext => hunsound
          ((TimerRun.onSchedule_pass_iff hrun).mp hnext)

instance : DecidablePred TimerRun.OnSchedule := fun run =>
  decidable_of_iff
    (run.timers = run.born.filterMap (TimerBirth.timerAt · run.passes) ∧
      run.fired = (List.range run.passes).map (TimerRun.dueIds run.born))
    ⟨fun hboth => ⟨hboth.1, hboth.2⟩, fun hrun => ⟨hrun.timers, hrun.fired⟩⟩

/-- A timer that fires once holds up the ones after it; here the second one
should fire with it. -/
theorem two_due_timers :
    ¬ StepSystem.Along TimerRun.step TimerRun.OnSchedule .fresh
      [.create 0 false, .create 0 false, .pass] :=
  StepSystem.not_along_of_exec (by decide)

end EziotSdk
