import EziotSdk.CStrings
import Mathlib.Data.List.TakeWhile

/-!
# Formatted scanning

The conversions `%<width>[^c]`, `%s` and `%d` of `sscanf`, each after ordinary
characters that must match.  A scan stores the texts of its conversions in
order and stops at the first one that does not match; the number of texts is
what the function returns.
-/

namespace Scanf

inductive Conversion where
  /-- `%<width>[^stop]`. -/
  | set (width : ℕ) (stop : Char)
  /-- `%s`. -/
  | word
  /-- `%d`. -/
  | decimal
  deriving DecidableEq, Repr

/-- A conversion and the ordinary characters in front of it. -/
structure Item where
  lead : CString
  conversion : Conversion
  deriving DecidableEq, Repr

def isSpace (char : Char) : Bool :=
  char = ' ' || ('\t' ≤ char && char ≤ '\r')

namespace Conversion

/-- Blanks are skipped except by a set. -/
def skip : Conversion → CString → CString
  | .set _ _, input => input
  | .word, input => input.dropWhile isSpace
  | .decimal, input => input.dropWhile isSpace

/-- The text that the conversion takes, empty when it does not match. -/
def text : Conversion → CString → CString
  | .set width stop, input => (input.takeWhile (· ≠ stop)).take width
  | .word, input => input.takeWhile fun char => !isSpace char
  | .decimal, input =>
      let sign := (input.take 1).filter fun char => char = '-' || char = '+'
      let digits := (input.drop sign.length).takeWhile Char.isDigit
      if digits = [] then [] else sign ++ digits

/-- The text that would be taken without a limit of width. -/
def span : Conversion → CString → CString
  | .set _ stop, input => input.takeWhile (· ≠ stop)
  | .word, input =>
      (input.dropWhile isSpace).takeWhile fun char => !isSpace char
  | .decimal, input => text .decimal (input.dropWhile isSpace)

/-- The limit of width, if there is one, is not below the size. -/
def Reaches (conversion : Conversion) (size : ℕ) : Prop :=
  ∀ width stop, conversion = .set width stop → size ≤ width

theorem text_length_lt_iff
    {conversion : Conversion} {size : ℕ}
    (hreaches : conversion.Reaches size) (input : CString) :
    (conversion.text (conversion.skip input)).length < size ↔
      (conversion.span input).length < size := by
  cases conversion with
  | set width stop =>
      have hwidth := hreaches width stop rfl
      simp only [text, skip, span, List.length_take]
      omega
  | word => exact Iff.rfl
  | decimal => exact Iff.rfl

end Conversion

def scan : List Item → CString → List CString
  | [], _ => []
  | item :: rest, input =>
      if item.lead <+: input then
        let start := item.conversion.skip (input.drop item.lead.length)
        let text := item.conversion.text start
        if text = [] then [] else text :: scan rest (start.drop text.length)
      else []

theorem scan_cons (item : Item) (items : List Item) (more : CString) :
    scan (item :: items) (item.lead ++ more) =
      let start := item.conversion.skip more
      let text := item.conversion.text start
      if text = [] then []
      else text :: scan items (start.drop text.length) := by
  rw [scan, if_pos (List.prefix_append _ _), List.drop_left]

theorem scan_cons_of_not_prefix
    {item : Item} {items : List Item} {input : CString}
    (hlead : ¬ item.lead <+: input) : scan (item :: items) input = [] := by
  rw [scan, if_neg hlead]

/-! ## Texts of a given shape -/

/-- The text is one that the conversion can take as a whole. -/
def Conversion.Accepts : Conversion → CString → Prop
  | .set width stop, text =>
      text ≠ [] ∧ text.length ≤ width ∧ ∀ char ∈ text, char ≠ stop
  | .word, text => text ≠ [] ∧ ∀ char ∈ text, isSpace char = false
  | .decimal, _ => False

/-- The texts in their places. -/
def render : List Item → List CString → CString
  | item :: items, text :: texts => item.lead ++ (text ++ render items texts)
  | _, _ => []

abbrev Accepts : List Item → List CString → Prop :=
  List.Forall₂ fun item text => item.conversion.Accepts text

/-- The character that ends the conversion before these items. -/
def firstChar : List Item → Char → Char
  | [], stop => stop
  | item :: _, stop => item.lead.headD stop

/-- Every item is a set that ends at the lead of the next item, and the last
one ends at `stop`. -/
def ChainedTo : List Item → Char → Prop
  | [], _ => True
  | item :: items, stop =>
      item.lead ≠ [] ∧
        (∃ width, item.conversion = .set width (firstChar items stop)) ∧
          ChainedTo items stop

/-- Texts of the items of two lists are texts of the one and of the other. -/
theorem accepts_append_iff
    {before after : List Item} {texts : List CString} :
    Accepts (before ++ after) texts ↔
      ∃ first second, texts = first ++ second ∧ Accepts before first ∧
        Accepts after second := by
  constructor
  · intro haccepts
    induction before generalizing texts with
    | nil => exact ⟨[], texts, rfl, .nil, haccepts⟩
    | cons item before ih =>
        rw [List.cons_append] at haccepts
        cases haccepts with
        | cons htext htexts =>
            obtain ⟨first, second, rfl, hfirst, hsecond⟩ := ih htexts
            exact ⟨_ :: first, second, rfl, .cons htext hfirst, hsecond⟩
  · rintro ⟨first, second, rfl, hfirst, hsecond⟩
    exact List.rel_append hfirst hsecond

theorem render_append
    {before : List Item} {first : List CString}
    (hfirst : Accepts before first) (after : List Item)
    (second : List CString) :
    render (before ++ after) (first ++ second) =
      render before first ++ render after second := by
  induction hfirst with
  | nil => rfl
  | cons htext htexts ih =>
      simp only [List.cons_append, render, ih, List.append_assoc]

theorem text_of_accepts
    {conversion : Conversion} {text rest : CString}
    (haccepts : conversion.Accepts text)
    (hrest : ∀ width stop, conversion = .set width stop →
      ∀ char ∈ rest.head?, char = stop)
    (hword : conversion = .word → rest = []) :
    conversion.text (conversion.skip (text ++ rest)) = text := by
  cases conversion with
  | decimal => exact absurd haccepts id
  | set width stop =>
      rcases haccepts with ⟨-, hwidth, hstop⟩
      have hall : ∀ char ∈ text, decide (char ≠ stop) = true := by
        simpa using hstop
      have hend : rest.takeWhile (fun char => decide (char ≠ stop)) = [] := by
        cases rest with
        | nil => rfl
        | cons char more =>
            have hchar := hrest width stop rfl char rfl
            simp [hchar]
      simp only [Conversion.text, Conversion.skip]
      rw [List.takeWhile_append_of_pos hall, hend, List.append_nil,
        List.take_of_length_le hwidth]
  | word =>
      rcases haccepts with ⟨-, hblank⟩
      have hall : ∀ char ∈ text, (!isSpace char) = true := by
        simpa using hblank
      have hskip : text.dropWhile isSpace = text := by
        cases text with
        | nil => rfl
        | cons char more =>
            have hchar := hblank char List.mem_cons_self
            simp [hchar]
      simp only [Conversion.text, Conversion.skip, hword rfl,
        List.append_nil, hskip]
      exact List.takeWhile_eq_self_iff.mpr hall

theorem accepts_ne_nil
    {conversion : Conversion} {text : CString}
    (haccepts : conversion.Accepts text) : text ≠ [] := by
  cases conversion with
  | decimal => exact absurd haccepts id
  | set width stop => exact haccepts.1
  | word => exact haccepts.1

theorem skip_of_accepts
    {conversion : Conversion} {text : CString} (rest : CString)
    (haccepts : conversion.Accepts text) :
    conversion.skip (text ++ rest) = text ++ rest := by
  cases conversion with
  | decimal => exact absurd haccepts id
  | set width stop => rfl
  | word =>
      cases text with
      | nil => exact absurd rfl haccepts.1
      | cons char more =>
          have hchar := haccepts.2 char List.mem_cons_self
          simp [Conversion.skip, hchar]

/-- One item over a text of its shape. -/
theorem scan_cons_of_accepts
    (item : Item) (items : List Item) {text : CString} (rest : CString)
    (haccepts : item.conversion.Accepts text)
    (hrest : ∀ width stop, item.conversion = .set width stop →
      ∀ char ∈ rest.head?, char = stop)
    (hword : item.conversion = .word → rest = []) :
    scan (item :: items) (item.lead ++ (text ++ rest)) =
      text :: scan items rest := by
  rw [scan_cons]
  dsimp only
  rw [text_of_accepts haccepts hrest hword, skip_of_accepts rest haccepts,
    if_neg (accepts_ne_nil haccepts), List.drop_left]

theorem head_render
    {items : List Item} {stop : Char} {texts : List CString}
    {rest : CString} (hchained : ChainedTo items stop)
    (haccepts : Accepts items texts) (hrest : rest.head? = some stop) :
    (render items texts ++ rest).head? = some (firstChar items stop) := by
  cases haccepts with
  | nil => exact hrest
  | cons htext htexts =>
      rename_i item items text texts
      obtain ⟨char, lead, hlead⟩ := List.exists_cons_of_ne_nil hchained.1
      simp [render, firstChar, hlead]

/-- A scan goes through a text of the shape of its first items. -/
theorem scan_append
    {before : List Item} (after : List Item) {stop : Char}
    {texts : List CString} {rest : CString}
    (hchained : ChainedTo before stop) (haccepts : Accepts before texts)
    (hrest : rest.head? = some stop) :
    scan (before ++ after) (render before texts ++ rest) =
      texts ++ scan after rest := by
  induction haccepts with
  | nil => rfl
  | cons htext htexts ih =>
      rename_i item text items texts
      rcases hchained with ⟨hlead, ⟨width, hconversion⟩, hitems⟩
      have hhead := head_render hitems htexts hrest
      have hstep := scan_cons_of_accepts item (items ++ after)
        (render items texts ++ rest) htext
        (by
          intro width' stop' hset char hchar
          rw [hconversion, Conversion.set.injEq] at hset
          rw [hhead, Option.mem_some_iff] at hchar
          rw [← hchar, hset.2])
        (by
          intro hword
          rw [hconversion] at hword
          cases hword)
      rw [List.cons_append, render, List.append_assoc, List.append_assoc,
        hstep, ih hitems, List.cons_append]

/-- A set takes a text that it accepts from the front of the input. -/
theorem set_text
    {width : ℕ} {stop : Char} {input : CString}
    (htext : (Conversion.set width stop).text input ≠ []) :
    (Conversion.set width stop).Accepts
        ((Conversion.set width stop).text input) ∧
      ∃ more, input = (Conversion.set width stop).text input ++ more := by
  have hprefix : (Conversion.set width stop).text input <+: input :=
    (List.take_prefix _ _).trans (List.takeWhile_prefix _)
  refine ⟨⟨htext, List.length_take_le _ _, ?_⟩, ?_⟩
  · intro char hchar
    have hmem := List.mem_of_mem_take hchar
    simpa using List.mem_takeWhile_imp hmem
  · obtain ⟨more, hmore⟩ := hprefix
    exact ⟨more, hmore.symm⟩

/-- What an item stores, in terms of the input alone. -/
theorem getElem?_scan_iff
    {before : List Item} {item : Item} {after : List Item} {stop : Char}
    {input text : CString} (hchained : ChainedTo before stop)
    (hlead : item.lead.head? = some stop) :
    (scan (before ++ item :: after) input)[before.length]? = some text ↔
      ∃ texts more, Accepts before texts ∧
        input = render before texts ++ (item.lead ++ more) ∧
        text = item.conversion.text (item.conversion.skip more) ∧
        text ≠ [] := by
  constructor
  · intro htext
    clear hlead
    induction before generalizing input with
    | nil =>
        by_cases hprefix : item.lead <+: input
        · obtain ⟨more, rfl⟩ := hprefix
          rw [List.nil_append, scan_cons] at htext
          dsimp only at htext
          split_ifs at htext with hempty
          · simp at htext
          · simp only [List.length_nil, List.getElem?_cons_zero,
              Option.some.injEq] at htext
            exact ⟨[], more, .nil, rfl, htext.symm, htext ▸ hempty⟩
        · rw [List.nil_append, scan_cons_of_not_prefix hprefix] at htext
          simp at htext
    | cons first before ih =>
        rcases hchained with ⟨-, ⟨width, hconversion⟩, hbefore⟩
        by_cases hprefix : first.lead <+: input
        · obtain ⟨start, rfl⟩ := hprefix
          rw [List.cons_append, scan_cons, hconversion] at htext
          dsimp only at htext
          split_ifs at htext with hempty
          · simp at htext
          · simp only [Conversion.skip, List.length_cons,
              List.getElem?_cons_succ] at htext hempty
            obtain ⟨haccepts, rest, hrest⟩ := set_text hempty
            have hdrop : start.drop ((Conversion.set width
                (firstChar before stop)).text start).length = rest := by
              nth_rewrite 2 [hrest]
              exact List.drop_left
            rw [hdrop] at htext
            obtain ⟨texts, more, htexts, hinput, htext', hne⟩ :=
              ih hbefore htext
            have hfirst : first.conversion.Accepts ((Conversion.set width
                (firstChar before stop)).text start) := by
              rw [hconversion]
              exact haccepts
            refine ⟨_ :: texts, more, .cons hfirst htexts, ?_, htext', hne⟩
            rw [render, List.append_assoc, List.append_assoc, ← hinput]
            exact congrArg (first.lead ++ ·) hrest
        · rw [List.cons_append, scan_cons_of_not_prefix hprefix] at htext
          simp at htext
  · rintro ⟨texts, more, haccepts, rfl, rfl, hne⟩
    have hhead : (item.lead ++ more).head? = some stop := by
      rw [List.head?_append, hlead]
      rfl
    have hlength := haccepts.length_eq
    rw [scan_append _ hchained haccepts hhead, scan_cons]
    dsimp only
    rw [if_neg hne, hlength, List.getElem?_append_right le_rfl]
    simp

/-- Where the input has the shape of these items and then the lead of this one,
what follows is shorter than the size. -/
def NextFits (before : List Item) (item : Item) (size : ℕ)
    (input : CString) : Prop :=
  ∀ texts more, Accepts before texts →
    input = render before texts ++ (item.lead ++ more) →
      (item.conversion.span more).length < size

/-- Only texts below the size are stored exactly if the input fits. -/
theorem stored_lt_iff
    (before : List Item) (item : Item) (after : List Item) (stop : Char)
    (size : ℕ) (input : CString) (hsize : 0 < size)
    (hchained : ChainedTo before stop) (hlead : item.lead.head? = some stop)
    (hreaches : item.conversion.Reaches size) :
    (∀ text, (scan (before ++ item :: after) input)[before.length]? =
        some text → text.length < size) ↔
      NextFits before item size input := by
  constructor
  · intro hstored texts more haccepts hinput
    rw [← Conversion.text_length_lt_iff hreaches]
    by_cases hempty :
        item.conversion.text (item.conversion.skip more) = []
    · rw [hempty]
      exact hsize
    · apply hstored
      rw [getElem?_scan_iff hchained hlead]
      exact ⟨texts, more, haccepts, hinput, rfl, hempty⟩
  · intro hfits text htext
    rw [getElem?_scan_iff hchained hlead] at htext
    obtain ⟨texts, more, haccepts, hinput, rfl, -⟩ := htext
    rw [Conversion.text_length_lt_iff hreaches]
    exact hfits texts more haccepts hinput

/-- The word that an input holds: after blanks, and ended by one. -/
theorem word_text_iff {input text : CString} (hne : text ≠ []) :
    Conversion.word.text (Conversion.word.skip input) = text ↔
      Conversion.word.Accepts text ∧ ∃ blanks rest,
        input = blanks ++ (text ++ rest) ∧
          (∀ char ∈ blanks, isSpace char = true) ∧
          ∀ char ∈ rest.head?, isSpace char = true := by
  constructor
  · intro htext
    unfold Conversion.text Conversion.skip at htext
    dsimp only at htext
    refine ⟨⟨hne, ?_⟩, input.takeWhile isSpace,
      (input.dropWhile isSpace).dropWhile fun char => !isSpace char,
      ?_, ?_, ?_⟩
    · intro char hchar
      rw [← htext] at hchar
      simpa using List.mem_takeWhile_imp hchar
    · rw [← htext, List.takeWhile_append_dropWhile,
        List.takeWhile_append_dropWhile]
    · intro char hchar
      exact List.mem_takeWhile_imp hchar
    · intro char hchar
      have hhead := List.head?_dropWhile_not
        (fun char => !isSpace char) (input.dropWhile isSpace)
      rw [Option.mem_def] at hchar
      rw [hchar] at hhead
      simpa using hhead
  · rintro ⟨haccepts, blanks, rest, hinput, hblanks, hrest⟩
    have hnonblank : ∀ char ∈ text, (!isSpace char) = true := by
      simpa using haccepts.2
    have hstart : (text ++ rest).dropWhile isSpace = text ++ rest :=
      skip_of_accepts rest haccepts
    have hend : rest.takeWhile (fun char => !isSpace char) = [] := by
      cases rest with
      | nil => rfl
      | cons char more => simp [hrest char rfl]
    unfold Conversion.text Conversion.skip
    dsimp only
    rw [hinput, List.dropWhile_append_of_pos hblanks, hstart,
      List.takeWhile_append_of_pos hnonblank, hend, List.append_nil]

end Scanf
