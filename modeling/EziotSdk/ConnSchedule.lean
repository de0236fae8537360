import EziotSdk.Scanf

/-!
# The schedule of a linkage rule

A rule carries a start time, an end time and a list of weekdays as texts.
`MakeString2Time` and `MakeString2WeekDays` read them, and `check_event_time`
compares the plan with the clock.
-/

namespace EziotSdk

/-! ## Data -/

/-- The hour and the minute of a `struct tm`, all that the rules use of it. -/
structure ConnTime where
  hour : ℤ
  min : ℤ
  deriving DecidableEq

/-- `conn_base_plan_metadata_t`. -/
structure ConnPlan where
  planBegin : ConnTime
  planEnd : ConnTime
  weekDays : Fin 7 → Bool
  deriving DecidableEq

def ConnTime.seconds (time : ConnTime) : ℤ :=
  time.hour * 3600 + time.min * 60

/-! ## Reading the texts -/

/-- `%d`, with what is left of the input. -/
def scanInt (input : CString) : Option (ℤ × CString) :=
  let start := Scanf.Conversion.decimal.skip input
  let text := Scanf.Conversion.decimal.text start
  if text = [] then none
  else some (CString.atoi text, start.drop text.length)

/-- `%d%c%d`. -/
def scanTime (input : CString) : ConnTime :=
  match scanInt input with
  | none => ⟨0, 0⟩
  | some (hour, rest) =>
      match scanInt rest.tail with
      | none => ⟨hour, 0⟩
      | some (min, _) => ⟨hour, min⟩

/-- The text is read after an `n` when there is one in it. -/
def makeString2Time (ts : CString) : ConnTime :=
  if 'n' ∈ ts then
    if ts.head? = some 'n' then scanTime ts.tail else ⟨0, 0⟩
  else scanTime ts

/-- The numbers of `%c%c%d%c%c%c%d...`: two characters in front of the first,
three between the others. -/
def scanWeekDays : ℕ → ℕ → CString → List ℤ
  | 0, _, _ => []
  | count + 1, skipped, input =>
      if input.length < skipped then []
      else
        match scanInt (input.drop skipped) with
        | none => []
        | some (day, rest) => day :: scanWeekDays count 3 rest

/-- The days that are set, when all numbers are in bounds; a number from seven
on is passed over. -/
def makeString2WeekDays (days : CString) (index : Fin 7) : Bool :=
  (scanWeekDays 7 2 days).any fun day =>
    decide (day < 7) && decide (day.bmod 256 = index)

/-- The numbers fit an `int`, and none is an index in front of the array: the
low byte of a number below seven is a day, or minus one, or passed over. -/
def weekDaysInBounds (days : CString) : Bool :=
  (scanWeekDays 7 2 days).all fun day =>
    decide (-2 ^ 31 ≤ day ∧ day < 2 ^ 31) &&
      decide (7 ≤ day ∨ -1 ≤ day.bmod 256)

/-! ## The clock -/

/-- The weekday and the second of the day, as `localtime` has them. -/
structure LocalClock where
  wday : Fin 7
  second : ℤ
  deriving DecidableEq

/-- The first of January 1970 was a Thursday. -/
def localtime (offset : ℤ) (timeNow : ℕ) : LocalClock where
  wday := Fin.ofNat 7 (((timeNow + offset) / 86400 + 4) % 7).toNat
  second := (timeNow + offset) % 86400

def checkEventTime (offset : ℤ) (plan : ConnPlan) (timeNow : ℕ) : Bool :=
  let week := (localtime offset timeNow).wday
  if plan.weekDays week then
    let timeBegin := plan.planBegin.seconds
    let timeEnd := plan.planEnd.seconds
    let now : ℤ := ((timeNow + 3600 * 8) % (3600 * 24) : ℕ)
    decide (timeBegin = 0 ∧ timeEnd = 0) ||
      decide (timeBegin ≤ now ∧ now ≤ timeEnd)
  else false

/-! ## Plans as they are meant -/

/-- The text of a number. -/
structure DigitText where
  text : CString
  nonempty : text ≠ []
  digits : ∀ char ∈ text, char.isDigit = true

def DigitText.value (number : DigitText) : ℕ :=
  CString.digitsValue number.text 0

/-- A time of day, in the form hour, separator, minute. -/
structure ClockText where
  hour : DigitText
  sep : Char
  min : DigitText
  hour_lt : hour.value < 24
  min_lt : min.value < 60
  sep_digit : sep.isDigit = false
  sep_mark : sep ≠ 'n'

namespace ClockText

def text (clock : ClockText) : CString :=
  clock.hour.text ++ clock.sep :: clock.min.text

def seconds (clock : ClockText) : ℤ :=
  clock.hour.value * 3600 + clock.min.value * 60

end ClockText

/-- A weekday from 1 for Monday to 7 for Sunday. -/
structure WeekDay where
  number : ℕ
  pos : 1 ≤ number
  le : number ≤ 7

namespace WeekDay

/-- The number of the day as `localtime` counts it, with Sunday first. -/
def wday (day : WeekDay) : ℕ := day.number % 7

def digit (day : WeekDay) : Char := Char.ofNat (day.number + '0'.toNat)

/-- The rest of the list after a day. -/
def tailText : List WeekDay → CString
  | [] => "\"]".toList
  | day :: rest => "\",\"".toList ++ day.digit :: tailText rest

/-- The list, in the form `["1","2"]`. -/
def listText : List WeekDay → CString
  | [] => "[]".toList
  | day :: rest => "[\"".toList ++ day.digit :: tailText rest

end WeekDay

/-- The plan of a rule; an `n` marks an end on the next day. -/
structure Schedule where
  start : ClockText
  nextDay : Bool
  stop : ClockText
  days : List WeekDay

namespace Schedule

/-- The plan that `parse_base_info` reads from the texts. -/
def parsed (schedule : Schedule) : ConnPlan where
  planBegin := makeString2Time schedule.start.text
  planEnd := makeString2Time
    ((if schedule.nextDay then "n".toList else []) ++ schedule.stop.text)
  weekDays := makeString2WeekDays (WeekDay.listText schedule.days)

def Selects (schedule : Schedule) (wday : ℕ) : Prop :=
  ∃ day ∈ schedule.days, day.wday = wday

def AllDay (schedule : Schedule) : Prop :=
  schedule.start.seconds = 0 ∧ schedule.stop.seconds = 0

/-- The local weekday and time of day lie in the plan. -/
def Covers (schedule : Schedule) (clock : LocalClock) : Prop :=
  if schedule.nextDay then
    (schedule.Selects clock.wday ∧ schedule.start.seconds ≤ clock.second) ∨
      (schedule.Selects (clock.wday - 1 : Fin 7) ∧
        clock.second ≤ schedule.stop.seconds)
  else
    schedule.Selects clock.wday ∧
      (schedule.AllDay ∨
        (schedule.start.seconds ≤ clock.second ∧
          clock.second ≤ schedule.stop.seconds))

/-- `check_event_time` is right about every instant. -/
def Right (schedule : Schedule) (offset : ℤ) : Prop :=
  ∀ timeNow, checkEventTime offset schedule.parsed timeNow = true ↔
    schedule.Covers (localtime offset timeNow)

/-- No day is selected; or there is no mark, and the window is empty or the
days are among the first seven of the list, none of them is Sunday, and the
window is the whole day or the local time is eight hours from UTC. -/
def Fits (schedule : Schedule) (offset : ℤ) : Prop :=
  schedule.days = [] ∨
    (schedule.nextDay = false ∧
      (schedule.stop.seconds < schedule.start.seconds ∨
        ((∀ day ∈ schedule.days, day.number ≠ 7 ∧
            ∃ other ∈ schedule.days.take 7, other.number = day.number) ∧
          (schedule.AllDay ∨ (offset - 3600 * 8) % (3600 * 24) = 0))))

end Schedule

/-! ## What the texts are read as -/

theorem mem_digits_of_isDigit {char : Char} (hdigit : char.isDigit = true) :
    char ∈ "0123456789".toList := by
  unfold Char.isDigit at hdigit
  rw [Bool.and_eq_true, decide_eq_true_eq, decide_eq_true_eq] at hdigit
  have hrange : 48 ≤ char.toNat ∧ char.toNat ≤ 57 :=
    ⟨UInt32.le_iff_toNat_le.mp hdigit.1, UInt32.le_iff_toNat_le.mp hdigit.2⟩
  rw [← Char.ofNat_toNat char]
  rcases hrange with ⟨hlow, hhigh⟩
  generalize char.toNat = code at hlow hhigh ⊢
  interval_cases code <;> decide

/-- A digit is no blank and no sign. -/
theorem plain_of_isDigit {char : Char} (hdigit : char.isDigit = true) :
    Scanf.isSpace char = false ∧ char.isWhitespace = false ∧
      char ≠ '-' ∧ char ≠ '+' ∧ char ≠ 'n' := by
  have hall : ("0123456789".toList.all fun digit =>
      !Scanf.isSpace digit && !digit.isWhitespace && digit != '-' &&
        digit != '+' && digit != 'n') = true := by
    decide
  have hchar := List.all_eq_true.mp hall char (mem_digits_of_isDigit hdigit)
  simpa [and_assoc] using hchar

/-- A number is read up to the first character that is no digit. -/
theorem scanInt_digits (number : DigitText) {rest : CString}
    (hrest : ∀ char ∈ rest.head?, char.isDigit = false) :
    scanInt (number.text ++ rest) = some ((number.value : ℤ), rest) := by
  rcases number with ⟨text, hnonempty, hdigits⟩
  cases text with
  | nil => exact absurd rfl hnonempty
  | cons first more =>
      rcases plain_of_isDigit (hdigits first List.mem_cons_self) with
        ⟨hspace, hblank, hminus, hplus, -⟩
      have hskip : Scanf.Conversion.decimal.skip (first :: more ++ rest) =
          first :: more ++ rest := by
        simp [Scanf.Conversion.skip, hspace]
      have hsign : ((first :: more ++ rest).take 1).filter
          (fun char => char = '-' || char = '+') = [] := by
        simp [hminus, hplus]
      have htail : rest.takeWhile Char.isDigit = [] := by
        cases rest with
        | nil => rfl
        | cons char later =>
            have hchar := hrest char rfl
            simp [hchar]
      have htake : (first :: more ++ rest).takeWhile Char.isDigit =
          first :: more := by
        rw [List.takeWhile_append_of_pos hdigits, htail, List.append_nil]
      have htext : Scanf.Conversion.decimal.text (first :: more ++ rest) =
          first :: more := by
        simp only [Scanf.Conversion.text, hsign, List.length_nil,
          List.drop_zero, htake]
        rfl
      have hatoi : CString.atoi (first :: more) =
          CString.digitsValue (first :: more) 0 := by
        unfold CString.atoi
        rw [List.dropWhile_cons_of_neg (by simpa using hblank)]
        split
        · next hcons => exact absurd (List.cons.inj hcons).1 hminus
        · next hcons => exact absurd (List.cons.inj hcons).1 hplus
        · rfl
      simp only [scanInt]
      rw [hskip, htext, if_neg hnonempty, hatoi, List.drop_left]
      rfl

theorem scanTime_text (clock : ClockText) :
    scanTime clock.text = ⟨clock.hour.value, clock.min.value⟩ := by
  have hsep : ∀ char ∈ (clock.sep :: clock.min.text).head?,
      char.isDigit = false := by
    intro char hchar
    rw [List.head?_cons, Option.mem_some_iff] at hchar
    rw [← hchar]
    exact clock.sep_digit
  have hmin := @scanInt_digits clock.min [] (by simp)
  rw [List.append_nil] at hmin
  rw [scanTime, ClockText.text, scanInt_digits clock.hour hsep]
  simp only [List.tail_cons]
  rw [hmin]

theorem not_mem_text (clock : ClockText) : 'n' ∉ clock.text := by
  have hplain : ∀ number : DigitText, 'n' ∉ number.text := by
    intro number hmem
    exact (plain_of_isDigit (number.digits _ hmem)).2.2.2.2 rfl
  rw [ClockText.text, List.mem_append, List.mem_cons, not_or, not_or]
  exact ⟨hplain clock.hour, Ne.symm clock.sep_mark, hplain clock.min⟩

theorem makeString2Time_text (clock : ClockText) (marked : Bool) :
    makeString2Time ((if marked then "n".toList else []) ++ clock.text) =
      ⟨clock.hour.value, clock.min.value⟩ := by
  cases marked with
  | false =>
      change makeString2Time clock.text = _
      rw [makeString2Time, if_neg (not_mem_text clock)]
      exact scanTime_text clock
  | true =>
      change makeString2Time ('n' :: clock.text) = _
      rw [makeString2Time, if_pos List.mem_cons_self, if_pos List.head?_cons]
      exact scanTime_text clock

namespace WeekDay

theorem digit_facts (day : WeekDay) :
    day.digit.isDigit = true ∧
      CString.digitsValue [day.digit] 0 = day.number := by
  rcases day with ⟨number, hpos, hle⟩
  unfold digit
  simp only
  interval_cases number <;> decide

theorem digit_isDigit (day : WeekDay) :
    ∀ char ∈ [day.digit], char.isDigit = true := by
  intro char hchar
  rw [List.mem_singleton.mp hchar]
  exact day.digit_facts.1

/-- The text of one day. -/
def digitText (day : WeekDay) : DigitText where
  text := [day.digit]
  nonempty := List.cons_ne_nil _ _
  digits := day.digit_isDigit

theorem scan_day (day : WeekDay) (rest : List WeekDay) :
    scanInt (day.digit :: tailText rest) =
      some ((day.number : ℤ), tailText rest) := by
  have hquote : ∀ char ∈ (tailText rest).head?, char.isDigit = false := by
    cases rest with
    | nil => simp [tailText]
    | cons next later => simp [tailText]
  have hvalue : day.digitText.value = day.number := day.digit_facts.2
  rw [← hvalue]
  exact scanInt_digits day.digitText hquote

theorem scanWeekDays_tailText (count : ℕ) (days : List WeekDay) :
    scanWeekDays count 3 (tailText days) =
      (days.take count).map fun day => (day.number : ℤ) := by
  induction count generalizing days with
  | zero => simp [scanWeekDays]
  | succ count ih =>
      cases days with
      | nil => rfl
      | cons day rest =>
          have hlong : ¬ (tailText (day :: rest)).length < 3 := by
            simp [tailText]
          have hdrop : (tailText (day :: rest)).drop 3 =
              day.digit :: tailText rest := rfl
          rw [scanWeekDays, if_neg hlong, hdrop, scan_day]
          simp only [List.take_succ_cons, List.map_cons, ih]

theorem scanWeekDays_listText (days : List WeekDay) :
    scanWeekDays 7 2 (listText days) =
      (days.take 7).map fun day => (day.number : ℤ) := by
  cases days with
  | nil => rfl
  | cons day rest =>
      have hlong : ¬ (listText (day :: rest)).length < 2 := by
        simp [listText]
      have hdrop : (listText (day :: rest)).drop 2 =
          day.digit :: tailText rest := rfl
      rw [scanWeekDays, if_neg hlong, hdrop, scan_day]
      simp only [List.take_succ_cons, List.map_cons, scanWeekDays_tailText]

/-- The days of the list that are set, Sunday not among them. -/
theorem makeString2WeekDays_iff (days : List WeekDay) (index : Fin 7) :
    makeString2WeekDays (listText days) index = true ↔
      ∃ day ∈ days.take 7, day.number ≠ 7 ∧ day.number = index.val := by
  rw [makeString2WeekDays, scanWeekDays_listText, List.any_map,
    List.any_eq_true]
  apply exists_congr
  intro day
  apply and_congr_right
  intro _
  have hpos := day.pos
  have hle := day.le
  have hsmall : ((day.number : ℤ)).bmod 256 = day.number :=
    Int.bmod_eq_of_le (by omega) (by omega)
  simp only [Function.comp_apply, Bool.and_eq_true, decide_eq_true_eq,
    hsmall, Nat.cast_inj]
  omega

end WeekDay

/-! ## Instants -/

theorem localtime_second (offset : ℤ) (timeNow : ℕ) :
    0 ≤ (localtime offset timeNow).second ∧
      (localtime offset timeNow).second < 86400 := by
  unfold localtime
  simp only
  omega

/-- The clock of the comparison, from the local one. -/
theorem comparison_clock (offset : ℤ) (timeNow : ℕ) :
    (((timeNow + 3600 * 8) % (3600 * 24) : ℕ) : ℤ) =
      ((localtime offset timeNow).second + (3600 * 8 - offset)) % 86400 := by
  unfold localtime
  simp only
  omega

/-- Every local weekday and time of day come up. -/
theorem exists_instant (offset : ℤ) (wday : Fin 7) {second : ℤ}
    (hpos : 0 ≤ second) (hlt : second < 86400) :
    ∃ timeNow, localtime offset timeNow = ⟨wday, second⟩ := by
  have hday : ((86400 * (7 * (offset.natAbs : ℤ) + (wday.val + 3) % 7) +
      second) / 86400 + 4) % 7 = wday.val := by
    omega
  have hinstant : 0 ≤ 86400 * (7 * (offset.natAbs : ℤ) +
      (wday.val + 3) % 7) + second - offset := by
    omega
  rcases Int.eq_ofNat_of_zero_le hinstant with ⟨timeNow, htime⟩
  have hlocal : (timeNow : ℤ) + offset =
      86400 * (7 * (offset.natAbs : ℤ) + (wday.val + 3) % 7) + second := by
    omega
  refine ⟨timeNow, ?_⟩
  rw [localtime, hlocal, hday, LocalClock.mk.injEq]
  constructor
  · apply Fin.ext
    simp only [Int.toNat_natCast, Fin.val_ofNat]
    exact Nat.mod_eq_of_lt wday.isLt
  · omega

namespace Schedule

variable {schedule : Schedule} {offset : ℤ}

/-- The days that the source sets. -/
def Sets (schedule : Schedule) (wday : ℕ) : Prop :=
  ∃ day ∈ schedule.days.take 7, day.number ≠ 7 ∧ day.number = wday

theorem checkEventTime_iff (timeNow : ℕ) :
    checkEventTime offset schedule.parsed timeNow = true ↔
      schedule.Sets (localtime offset timeNow).wday ∧
        (schedule.AllDay ∨
          (schedule.start.seconds ≤
              (((timeNow + 3600 * 8) % (3600 * 24) : ℕ) : ℤ) ∧
            (((timeNow + 3600 * 8) % (3600 * 24) : ℕ) : ℤ) ≤
              schedule.stop.seconds)) := by
  have hbegin : schedule.parsed.planBegin.seconds =
      schedule.start.seconds := by
    have hplain := makeString2Time_text schedule.start false
    change makeString2Time schedule.start.text = _ at hplain
    simp only [parsed, hplain, ConnTime.seconds, ClockText.seconds]
  have hend : schedule.parsed.planEnd.seconds = schedule.stop.seconds := by
    simp only [parsed, makeString2Time_text, ConnTime.seconds,
      ClockText.seconds]
  have hdays : schedule.parsed.weekDays (localtime offset timeNow).wday =
      true ↔ schedule.Sets (localtime offset timeNow).wday :=
    WeekDay.makeString2WeekDays_iff _ _
  rw [← hdays, checkEventTime]
  simp only [hbegin, hend]
  split_ifs with hday
  · rw [Bool.or_eq_true, decide_eq_true_eq, decide_eq_true_eq,
      and_iff_right hday]
    exact Iff.rfl
  · simp only [hday, Bool.false_eq_true, false_and]

/-- To be right about every instant is to be right about every weekday and
time of day, with the other clock shifted. -/
theorem right_iff :
    schedule.Right offset ↔
      ∀ (wday : Fin 7) (second : ℤ), 0 ≤ second → second < 86400 →
        (schedule.Sets wday ∧
            (schedule.AllDay ∨
              (schedule.start.seconds ≤
                  (second + (3600 * 8 - offset)) % 86400 ∧
                (second + (3600 * 8 - offset)) % 86400 ≤
                  schedule.stop.seconds)) ↔
          schedule.Covers ⟨wday, second⟩) := by
  constructor
  · intro hright wday second hpos hlt
    rcases exists_instant offset wday hpos hlt with ⟨timeNow, hclock⟩
    have hcheck := hright timeNow
    rw [checkEventTime_iff, comparison_clock offset, hclock] at hcheck
    exact hcheck
  · intro hall timeNow
    rcases localtime_second offset timeNow with ⟨hpos, hlt⟩
    rw [checkEventTime_iff, comparison_clock offset]
    exact hall _ _ hpos hlt

theorem seconds_bounds (clock : ClockText) :
    0 ≤ clock.seconds ∧ clock.seconds ≤ 86340 := by
  have hhour := clock.hour_lt
  have hmin := clock.min_lt
  unfold ClockText.seconds
  omega

theorem selects_of_sets {wday : ℕ} (hsets : schedule.Sets wday) :
    schedule.Selects wday ∧ wday ≠ 0 := by
  rcases hsets with ⟨day, hmem, hseven, hnumber⟩
  have hpos := day.pos
  have hle := day.le
  refine ⟨⟨day, List.mem_of_mem_take hmem, ?_⟩, by omega⟩
  rw [WeekDay.wday, ← hnumber]
  exact Nat.mod_eq_of_lt (by omega)

/-- A window of some length moves when it is shifted, unless it is shifted by
whole days. -/
theorem shift_eq_zero {first last shift : ℤ} (hfirst : 0 ≤ first)
    (hle : first ≤ last) (hlast : last ≤ 86340)
    (hsame : ∀ second, 0 ≤ second → second < 86400 →
      ((first ≤ (second + shift) % 86400 ∧
          (second + shift) % 86400 ≤ last) ↔
        (first ≤ second ∧ second ≤ last))) :
    shift % 86400 = 0 := by
  have hstart := (hsame first hfirst (by omega)).mpr ⟨le_rfl, hle⟩
  by_contra hshift
  have hmod := Int.emod_nonneg shift (by decide : (86400 : ℤ) ≠ 0)
  have hbefore := (hsame (last - shift % 86400 + 1) (by omega)
    (by omega)).mpr (by omega)
  omega

/-- No shift brings the time from the start to midnight into a window that
ends before midnight. -/
theorem not_until_midnight {first last shift : ℤ} (hfirst : 0 ≤ first)
    (hbound : first ≤ 86340) (hlast : last ≤ 86340)
    (hall : ∀ second, first ≤ second → second < 86400 →
      first ≤ (second + shift) % 86400 ∧ (second + shift) % 86400 ≤ last) :
    False := by
  have hend := hall 86399 (by omega) (by omega)
  have hmod := Int.emod_nonneg shift (by decide : (86400 : ℤ) ≠ 0)
  have hmodLt := Int.emod_lt_of_pos shift (by decide : (0 : ℤ) < 86400)
  by_cases hearly : first ≤ 86399 - shift % 86400
  · have hmidnight := hall (86399 - shift % 86400) hearly (by omega)
    omega
  · by_cases hwrap : first ≤ shift % 86400
    · have hbefore := hall (first - 1 - shift % 86400 + 86400) (by omega)
        (by omega)
      omega
    · omega

/-- A mark for the next day is wrong for some instant. -/
theorem not_right_of_nextDay (hday : schedule.days ≠ [])
    (hmark : schedule.nextDay = true) : ¬ schedule.Right offset := by
  rw [right_iff]
  intro hall
  simp only [Covers, hmark, if_true] at hall
  have hstart := seconds_bounds schedule.start
  have hstop := seconds_bounds schedule.stop
  rcases List.exists_mem_of_ne_nil _ hday with ⟨day, hmem⟩
  have hselected : schedule.Selects (Fin.ofNat 7 day.wday).val :=
    ⟨day, hmem, (Nat.mod_mod _ _).symm⟩
  by_cases hwhole : schedule.AllDay
  · -- The first second of a day shows the day before it, too.
    have hbefore : ∀ wday : Fin 7, ¬ schedule.Selects wday →
        ¬ schedule.Selects (wday - 1 : Fin 7) := by
      intro wday hnot hprevious
      have hfirst := (hall wday 0 le_rfl (by omega)).mpr
        (Or.inr ⟨hprevious, hstop.1⟩)
      exact hnot (selects_of_sets hfirst.1).1
    have hsunday : ¬ schedule.Selects (0 : Fin 7) := by
      intro hselects
      have hsets := (hall 0 0 le_rfl (by omega)).mpr
        (Or.inl ⟨hselects, le_of_eq hwhole.1⟩)
      exact (selects_of_sets hsets.1).2 rfl
    have hsix := hbefore 0 hsunday
    have hfive := hbefore 6 hsix
    have hfour := hbefore 5 hfive
    have hthree := hbefore 4 hfour
    have htwo := hbefore 3 hthree
    have hone := hbefore 2 htwo
    have hnone : ∀ wday : Fin 7, ¬ schedule.Selects wday := by
      intro wday
      fin_cases wday
      · exact hsunday
      · exact hone
      · exact htwo
      · exact hthree
      · exact hfour
      · exact hfive
      · exact hsix
    exact hnone _ hselected
  · apply not_until_midnight hstart.1 hstart.2 hstop.2
    intro second hfrom hlt
    have hcovered := (hall _ second (by omega) hlt).mpr
      (Or.inl ⟨hselected, hfrom⟩)
    exact hcovered.2.resolve_left hwhole

/-- Without a mark, and with a window that is not empty. -/
theorem right_iff_of_window (hday : schedule.days ≠ [])
    (hmark : schedule.nextDay = false)
    (hwindow : schedule.start.seconds ≤ schedule.stop.seconds) :
    schedule.Right offset ↔
      (∀ day ∈ schedule.days, day.number ≠ 7 ∧
          ∃ other ∈ schedule.days.take 7, other.number = day.number) ∧
        (schedule.AllDay ∨ (offset - 3600 * 8) % (3600 * 24) = 0) := by
  have hstart := seconds_bounds schedule.start
  have hstop := seconds_bounds schedule.stop
  rw [right_iff]
  simp only [Covers, hmark, Bool.false_eq_true, if_false]
  constructor
  · intro hall
    have hsets : ∀ day ∈ schedule.days, schedule.Sets day.wday := by
      intro day hmem
      have hselected : schedule.Selects (Fin.ofNat 7 day.wday).val :=
        ⟨day, hmem, (Nat.mod_mod _ _).symm⟩
      have hcovered := (hall _ schedule.start.seconds hstart.1
        (by omega)).mpr ⟨hselected, Or.inr ⟨le_rfl, hwindow⟩⟩
      have hsame : (Fin.ofNat 7 day.wday).val = day.wday := Nat.mod_mod _ _
      rw [← hsame]
      exact hcovered.1
    constructor
    · intro day hmem
      rcases hsets day hmem with ⟨other, hother, hseven, hnumber⟩
      have hpos := other.pos
      have hle := day.le
      rw [WeekDay.wday] at hnumber
      have hsunday : day.number ≠ 7 := by
        intro hday
        rw [hday] at hnumber
        omega
      refine ⟨hsunday, other, hother, ?_⟩
      rw [hnumber]
      exact Nat.mod_eq_of_lt (by omega)
    · by_cases hwhole : schedule.AllDay
      · exact Or.inl hwhole
      · right
        rcases List.exists_mem_of_ne_nil _ hday with ⟨day, hmem⟩
        have hday := hsets day hmem
        have hselects := (selects_of_sets hday).1
        have hsame : (Fin.ofNat 7 day.wday).val = day.wday := Nat.mod_mod _ _
        have hshift : (3600 * 8 - offset) % 86400 = 0 := by
          apply shift_eq_zero hstart.1 hwindow hstop.2
          intro second hpos hlt
          have hboth := hall (Fin.ofNat 7 day.wday) second hpos hlt
          simp only [hsame, hday, hselects, hwhole, true_and,
            false_or] at hboth
          exact hboth
        omega
  · rintro ⟨hdays, hclock⟩ wday second hpos hlt
    have hsame : schedule.Sets wday ↔ schedule.Selects wday := by
      constructor
      · intro hsets
        exact (selects_of_sets hsets).1
      · rintro ⟨day, hmem, hwday⟩
        rcases hdays day hmem with ⟨hseven, other, hother, hnumber⟩
        have hle := day.le
        refine ⟨other, hother, by omega, ?_⟩
        rw [WeekDay.wday] at hwday
        rw [hnumber, ← hwday]
        exact (Nat.mod_eq_of_lt (by omega)).symm
    rw [hsame]
    apply and_congr_right
    intro _
    rcases hclock with hwhole | hzone
    · simp only [hwhole, true_or]
    · have hequal : (second + (3600 * 8 - offset)) % 86400 = second := by
        omega
      rw [hequal]

end Schedule

/-- `check_event_time` is right about every instant exactly if the plan fits
the zone. -/
theorem checkEventTime_right_iff (schedule : Schedule) (offset : ℤ) :
    schedule.Right offset ↔ schedule.Fits offset := by
  unfold Schedule.Fits
  by_cases hday : schedule.days = []
  · simp only [hday, true_or, iff_true]
    rw [Schedule.right_iff]
    intro wday second _ _
    simp [Schedule.Sets, Schedule.Covers, Schedule.Selects, hday]
  · rw [or_iff_right hday]
    cases hmark : schedule.nextDay with
    | true =>
        simp only [Bool.true_eq_false, false_and, iff_false]
        exact Schedule.not_right_of_nextDay hday hmark
    | false =>
        rw [and_iff_right rfl]
        rcases lt_or_ge schedule.stop.seconds schedule.start.seconds with
          hempty | hwindow
        · simp only [hempty, true_or, iff_true]
          rw [Schedule.right_iff]
          intro wday second _ _
          have hwhole : ¬ schedule.AllDay := by
            rintro ⟨hstart, hstop⟩
            omega
          simp only [Schedule.Covers, hmark, Bool.false_eq_true, if_false,
            hwhole, false_or]
          constructor
          · rintro ⟨-, hfrom, hto⟩
            omega
          · rintro ⟨-, hfrom, hto⟩
            omega
        · rw [or_iff_right (not_lt.mpr hwindow)]
          exact Schedule.right_iff_of_window hday hmark hwindow

theorem digits_of_all {text : CString} (hall : text.all Char.isDigit = true) :
    ∀ char ∈ text, char.isDigit = true :=
  List.all_eq_true.mp hall

def twoDigits (first second : Char)
    (hall : [first, second].all Char.isDigit = true) : DigitText where
  text := [first, second]
  nonempty := List.cons_ne_nil _ _
  digits := digits_of_all hall

theorem eight_lt : (twoDigits '0' '8' rfl).value < 24 := by decide

theorem eighteen_lt : (twoDigits '1' '8' rfl).value < 24 := by decide

theorem zero_lt_sixty : (twoDigits '0' '0' rfl).value < 60 := by decide

theorem colon_ne_mark : ':' ≠ 'n' := by decide

/-- From eight to eighteen on Sundays. -/
def sundaySchedule : Schedule where
  start := ⟨twoDigits '0' '8' rfl, ':', twoDigits '0' '0' rfl, eight_lt,
    zero_lt_sixty, rfl, colon_ne_mark⟩
  nextDay := false
  stop := ⟨twoDigits '1' '8' rfl, ':', twoDigits '0' '0' rfl, eighteen_lt,
    zero_lt_sixty, rfl, colon_ne_mark⟩
  days := [⟨7, Nat.le_add_left 1 6, le_rfl⟩]

/-- The fourth of January 1970, a Sunday, at noon in the zone of the source. -/
theorem sunday_passed_over : ¬ sundaySchedule.Right 28800 := by
  have hclock : localtime 28800 273600 = ⟨0, 43200⟩ := by decide
  have hstart : sundaySchedule.start.seconds = 28800 := by decide
  have hstop : sundaySchedule.stop.seconds = 64800 := by decide
  have hmark : ¬ sundaySchedule.nextDay = true := Bool.false_ne_true
  have hcovers : sundaySchedule.Covers (localtime 28800 273600) := by
    rw [hclock, Schedule.Covers, if_neg hmark, hstart, hstop]
    exact ⟨⟨_, List.mem_singleton_self _, rfl⟩, Or.inr (by decide)⟩
  intro hright
  have hcheck := (hright 273600).mpr hcovers
  rw [Schedule.checkEventTime_iff] at hcheck
  rcases hcheck with ⟨⟨day, hmem, hseven, -⟩, -⟩
  exact hseven (congrArg WeekDay.number (List.mem_singleton.mp hmem))

end EziotSdk
