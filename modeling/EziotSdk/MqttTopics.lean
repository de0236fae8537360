import EziotSdk.MqttReading
import Mathlib.Data.List.TakeWhile

/-!
# Topic filters

`isTopicMatched` runs over a filter and a topic with two pointers.  It never
looks for levels; that it nevertheless compares level by level is what its
comments assume of the filter's form.  A wildcard wants a level that is not
empty, and `#` wants at least one.
-/

namespace EziotSdk

/-! ## The loop -/

def topicSlash : UInt8 := 47

def topicPlus : UInt8 := 43

def topicHash : UInt8 := 35

/-- The loop of `isTopicMatched` and the comparison behind it; where the loop
breaks, there is something left of the topic. -/
def topicLoop : Bytes → Bytes → Bool
  | [], name => name.isEmpty
  | _ :: _, [] => false
  | curf :: filter, curn :: name =>
      if curn = topicSlash ∧ curf ≠ topicSlash then false
      else if curf ≠ topicPlus ∧ curf ≠ topicHash ∧ curf ≠ curn then false
      else if curf = topicPlus then
        topicLoop filter (name.dropWhile (· ≠ topicSlash))
      else if curf = topicHash then topicLoop filter []
      else topicLoop filter name

def isTopicMatched (topicFilter : Bytes) (topicName : MqttLenString) : Bool :=
  topicName.data.isSome && topicLoop topicFilter topicName.text

/-! ## Filters by levels -/

inductive FilterLevel where
  | word (text : Bytes)
  | single
  deriving DecidableEq, Repr

namespace FilterLevel

def text : FilterLevel → Bytes
  | word text => text
  | single => [topicPlus]

/-- A word has neither separators nor wildcards. -/
def Plain : FilterLevel → Prop
  | word text => topicSlash ∉ text ∧ topicPlus ∉ text ∧ topicHash ∉ text
  | single => True

def Matches : FilterLevel → Bytes → Prop
  | word text, level => text = level
  | single, level => level ≠ []

instance : DecidablePred Plain
  | word text => inferInstanceAs
      (Decidable (topicSlash ∉ text ∧ topicPlus ∉ text ∧ topicHash ∉ text))
  | single => isTrue trivial

instance (level : FilterLevel) : DecidablePred level.Matches :=
  match level with
  | word text => fun name => inferInstanceAs (Decidable (text = name))
  | single => fun name => inferInstanceAs (Decidable (name ≠ []))

end FilterLevel

/-- The levels of a filter, and whether `#` follows them. -/
structure TopicFilter where
  levels : List FilterLevel
  rest : Bool
  plain : ∀ level ∈ levels, level.Plain
  nonempty : levels ≠ [] ∨ rest = true

namespace TopicFilter

/-- The texts of the levels. -/
def parts (levels : List FilterLevel) (rest : Bool) : List Bytes :=
  levels.map FilterLevel.text ++ if rest then [[topicHash]] else []

def spelling (filter : TopicFilter) : Bytes :=
  [topicSlash].intercalate (parts filter.levels filter.rest)

/-- The rule level by level. -/
def MatchesLevels (rest : Bool) : List FilterLevel → List Bytes → Prop
  | [], [] => rest = false
  | [], level :: _ => rest = true ∧ level ≠ []
  | _ :: _, [] => False
  | own :: levels, level :: names =>
      own.Matches level ∧ MatchesLevels rest levels names

def Matches (filter : TopicFilter) (name : Bytes) : Prop :=
  MatchesLevels filter.rest filter.levels (name.splitOn topicSlash)

instance decideLevels (rest : Bool) :
    ∀ levels names, Decidable (MatchesLevels rest levels names)
  | [], [] => inferInstanceAs (Decidable (rest = false))
  | [], level :: _ => inferInstanceAs (Decidable (rest = true ∧ level ≠ []))
  | _ :: _, [] => isFalse id
  | own :: levels, level :: names =>
      have := decideLevels rest levels names
      inferInstanceAs
        (Decidable (own.Matches level ∧ MatchesLevels rest levels names))

instance (filter : TopicFilter) : DecidablePred filter.Matches :=
  fun name => decideLevels filter.rest filter.levels (name.splitOn topicSlash)

end TopicFilter

/-! ## Single levels -/

/-- What stands behind a level. -/
def BehindLevel (text : Bytes) : Prop :=
  text = [] ∨ ∃ more, text = topicSlash :: more

theorem topicLoop_word {word filter : Bytes} (hplain : (FilterLevel.word
    word).Plain) (hfilter : BehindLevel filter) {level name : Bytes}
    (hlevel : topicSlash ∉ level) (hname : BehindLevel name) :
    topicLoop (word ++ filter) (level ++ name) = true ↔
      word = level ∧ topicLoop filter name = true := by
  obtain ⟨hslash, hplus, hhash⟩ := hplain
  induction word generalizing level with
  | nil =>
      cases level with
      | nil => simp
      | cons curn level =>
          have hcurn : topicSlash ≠ curn := fun heq =>
            hlevel (List.mem_cons.mpr (Or.inl heq))
          rcases hfilter with rfl | ⟨more, rfl⟩
          · simp [topicLoop]
          · simp [topicLoop, topicSlash, topicPlus, topicHash]
            intro heq
            exact absurd heq hcurn
  | cons curf word ih =>
      have hcurf : curf ≠ topicSlash := fun heq =>
        hslash (List.mem_cons.mpr (Or.inl heq.symm))
      have hnotPlus : curf ≠ topicPlus := fun heq =>
        hplus (List.mem_cons.mpr (Or.inl heq.symm))
      have hnotHash : curf ≠ topicHash := fun heq =>
        hhash (List.mem_cons.mpr (Or.inl heq.symm))
      cases level with
      | nil =>
          rcases hname with rfl | ⟨more, rfl⟩
          · simp [topicLoop]
          · simp [topicLoop, hcurf]
      | cons curn level =>
          have hcurn : curn ≠ topicSlash := fun heq =>
            hlevel (List.mem_cons.mpr (Or.inl heq.symm))
          have hrest := @ih level
            (fun hmem => hlevel (List.mem_cons_of_mem _ hmem))
            (fun hmem => hslash (List.mem_cons_of_mem _ hmem))
            (fun hmem => hplus (List.mem_cons_of_mem _ hmem))
            (fun hmem => hhash (List.mem_cons_of_mem _ hmem))
          rw [List.cons_append, List.cons_append, topicLoop,
            if_neg (by simp [hcurn])]
          by_cases hsame : curf = curn
          · rw [if_neg (by simp [hsame]), if_neg hnotPlus, if_neg hnotHash,
              hrest, List.cons_eq_cons]
            simp [hsame]
          · rw [if_pos ⟨hnotPlus, hnotHash, hsame⟩]
            simp [hsame]

theorem topicLoop_single {filter level name : Bytes}
    (hlevel : topicSlash ∉ level) (hname : BehindLevel name) :
    topicLoop (topicPlus :: filter) (level ++ name) = true ↔
      level ≠ [] ∧ topicLoop filter name = true := by
  cases level with
  | nil =>
      rcases hname with rfl | ⟨more, rfl⟩
      · simp [topicLoop]
      · simp [topicLoop, topicPlus, topicSlash]
  | cons curn level =>
      have hcurn : curn ≠ topicSlash := fun heq =>
        hlevel (List.mem_cons.mpr (Or.inl heq.symm))
      have hinside : ∀ byte ∈ level, (decide (byte ≠ topicSlash)) = true := by
        intro byte hbyte
        rw [decide_eq_true_iff]
        rintro rfl
        exact hlevel (List.mem_cons_of_mem _ hbyte)
      have hdrop : (level ++ name).dropWhile (· ≠ topicSlash) = name := by
        rw [List.dropWhile_append_of_pos hinside]
        rcases hname with rfl | ⟨more, rfl⟩
        · rfl
        · simp
      rw [List.cons_append, topicLoop, if_neg (by simp [hcurn]),
        if_neg (by simp), if_pos rfl, hdrop]
      simp

theorem topicLoop_hash {level name : Bytes}
    (hlevel : topicSlash ∉ level) (hname : BehindLevel name) :
    topicLoop [topicHash] (level ++ name) = true ↔ level ≠ [] := by
  cases level with
  | nil =>
      rcases hname with rfl | ⟨more, rfl⟩
      · simp [topicLoop]
      · simp [topicLoop, topicHash, topicSlash]
  | cons curn level =>
      have hcurn : curn ≠ topicSlash := fun heq =>
        hlevel (List.mem_cons.mpr (Or.inl heq.symm))
      rw [List.cons_append, topicLoop, if_neg (by simp [hcurn]),
        if_neg (by simp), if_neg (by decide), if_pos rfl]
      simp [topicLoop]

theorem topicLoop_level {own : FilterLevel} (hplain : own.Plain)
    {filter level name : Bytes} (hfilter : BehindLevel filter)
    (hlevel : topicSlash ∉ level) (hname : BehindLevel name) :
    topicLoop (own.text ++ filter) (level ++ name) = true ↔
      own.Matches level ∧ topicLoop filter name = true := by
  cases own with
  | word text => exact topicLoop_word hplain hfilter hlevel hname
  | single => exact topicLoop_single hlevel hname

theorem topicLoop_slash (filter : Bytes) {name : Bytes}
    (hname : BehindLevel name) :
    topicLoop (topicSlash :: filter) name = true ↔
      ∃ more, name = topicSlash :: more ∧ topicLoop filter more = true := by
  rcases hname with rfl | ⟨more, rfl⟩
  · simp [topicLoop]
  · rw [topicLoop, if_neg (by simp), if_neg (by simp), if_neg (by decide),
      if_neg (by decide)]
    simp

/-! ## Topics by levels -/

/-- The first level of a topic, and what stands behind it. -/
theorem exists_level (name : Bytes) :
    ∃ level behind, name = level ++ behind ∧ topicSlash ∉ level ∧
      BehindLevel behind := by
  refine ⟨name.takeWhile (· ≠ topicSlash), name.dropWhile (· ≠ topicSlash),
    List.takeWhile_append_dropWhile.symm, ?_, ?_⟩
  · intro hmem
    have habsurd := List.mem_takeWhile_imp hmem
    simp at habsurd
  · cases hdrop : name.dropWhile (· ≠ topicSlash) with
    | nil => exact Or.inl rfl
    | cons first more =>
        have hfirst := List.head?_dropWhile_not (· ≠ topicSlash) name
        rw [hdrop] at hfirst
        simp at hfirst
        exact Or.inr ⟨more, by rw [hfirst]⟩

theorem splitOn_level {level behind : Bytes} (hlevel : topicSlash ∉ level)
    (hbehind : BehindLevel behind) :
    (behind = [] ∧
        (level ++ behind).splitOn topicSlash = [level]) ∨
      ∃ more, behind = topicSlash :: more ∧
        (level ++ behind).splitOn topicSlash =
          level :: more.splitOn topicSlash := by
  rcases hbehind with rfl | ⟨more, rfl⟩
  · left
    rw [List.append_nil]
    exact ⟨rfl, List.splitOn_eq_singleton hlevel⟩
  · right
    exact ⟨more, rfl, List.splitOn_append_cons_self_of_not_mem hlevel more⟩

namespace TopicFilter

theorem parts_cons (own : FilterLevel) (levels : List FilterLevel)
    (rest : Bool) :
    parts (own :: levels) rest = own.text :: parts levels rest :=
  rfl

theorem parts_eq_nil_iff {levels : List FilterLevel} {rest : Bool} :
    parts levels rest = [] ↔ levels = [] ∧ rest = false := by
  cases rest <;> simp [parts]

/-- The rest of a spelling behind its first level. -/
theorem spelling_cons (own : FilterLevel) (levels : List FilterLevel)
    (rest : Bool) :
    (levels = [] ∧ rest = false ∧
        [topicSlash].intercalate (parts (own :: levels) rest) = own.text) ∨
      ((levels ≠ [] ∨ rest = true) ∧
        [topicSlash].intercalate (parts (own :: levels) rest) =
          own.text ++ topicSlash ::
            [topicSlash].intercalate (parts levels rest)) := by
  rw [parts_cons]
  by_cases hnil : parts levels rest = []
  · left
    obtain ⟨hlevels, hrest⟩ := parts_eq_nil_iff.mp hnil
    exact ⟨hlevels, hrest, by rw [hnil]; simp⟩
  · right
    refine ⟨?_, ?_⟩
    · by_contra hneither
      rw [not_or, not_not, Bool.not_eq_true] at hneither
      exact hnil (parts_eq_nil_iff.mpr hneither)
    · rw [List.intercalate_cons_of_ne_nil hnil]
      simp

theorem topicLoop_levels {rest : Bool} {levels : List FilterLevel}
    (hplain : ∀ level ∈ levels, level.Plain)
    (hnonempty : levels ≠ [] ∨ rest = true) (name : Bytes) :
    topicLoop ([topicSlash].intercalate (parts levels rest)) name = true ↔
      MatchesLevels rest levels (name.splitOn topicSlash) := by
  induction levels generalizing name with
  | nil =>
      have hrest : rest = true := by simpa using hnonempty
      obtain ⟨level, behind, rfl, hlevel, hbehind⟩ := exists_level name
      have hspelling : [topicSlash].intercalate (parts [] rest) =
          [topicHash] := by
        rw [hrest]
        rfl
      rw [hspelling, topicLoop_hash hlevel hbehind]
      rcases splitOn_level hlevel hbehind with ⟨-, hsplit⟩ | ⟨more, -, hsplit⟩
      · rw [hsplit, MatchesLevels]
        simp [hrest]
      · rw [hsplit, MatchesLevels]
        simp [hrest]
  | cons own levels ih =>
      have hown := hplain own List.mem_cons_self
      obtain ⟨level, behind, rfl, hlevel, hbehind⟩ := exists_level name
      rcases spelling_cons own levels rest with
        ⟨rfl, hrest, hspelling⟩ | ⟨hmore, hspelling⟩
      · have hstep := topicLoop_level hown (Or.inl rfl) hlevel hbehind
        rw [List.append_nil] at hstep
        rw [hspelling, hstep]
        rcases splitOn_level hlevel hbehind with
          ⟨rfl, hsplit⟩ | ⟨more, rfl, hsplit⟩
        · rw [hsplit, MatchesLevels, MatchesLevels]
          simp [topicLoop, hrest]
        · obtain ⟨first, others, hfirst⟩ := List.exists_cons_of_ne_nil
            (List.splitOn_ne_nil topicSlash more)
          rw [hsplit, MatchesLevels, hfirst, MatchesLevels]
          simp [topicLoop, hrest]
      · have hrec := ih (fun other hother =>
          hplain other (List.mem_cons_of_mem _ hother)) hmore
        rw [hspelling, topicLoop_level hown (Or.inr ⟨_, rfl⟩) hlevel hbehind,
          topicLoop_slash _ hbehind]
        rcases splitOn_level hlevel hbehind with
          ⟨rfl, hsplit⟩ | ⟨more, rfl, hsplit⟩
        · rw [hsplit, MatchesLevels]
          cases levels with
          | nil =>
              have hrest : rest = true := by simpa using hmore
              simp [MatchesLevels, hrest]
          | cons second levels => simp [MatchesLevels]
        · rw [hsplit, MatchesLevels, ← hrec more]
          simp

end TopicFilter

/-- `isTopicMatched` decides, for every filter of the form that its comments
ask for and every topic, whether they match level by level. -/
theorem isTopicMatched_iff (filter : TopicFilter) (topicName : MqttLenString) :
    isTopicMatched filter.spelling topicName = true ↔
      topicName.data ≠ none ∧ filter.Matches topicName.text := by
  rw [isTopicMatched, Bool.and_eq_true, TopicFilter.spelling,
    TopicFilter.topicLoop_levels filter.plain filter.nonempty,
    Option.isSome_iff_ne_none]
  rfl

/-- `a/+/#`. -/
def anyBelow : TopicFilter where
  levels := [.word [97], .single]
  rest := true
  plain := by decide
  nonempty := .inr rfl

/-- The topic `a/b/c` matches, and `a//c` with its empty level does not. -/
theorem isTopicMatched_iff_anyBelow :
    isTopicMatched anyBelow.spelling ⟨5, some [97, 47, 98, 47, 99]⟩ = true ∧
      isTopicMatched anyBelow.spelling ⟨4, some [97, 47, 47, 99]⟩ =
        false := by
  constructor
  · rw [isTopicMatched_iff]
    decide
  · rw [← Bool.not_eq_true, isTopicMatched_iff]
    decide

end EziotSdk
