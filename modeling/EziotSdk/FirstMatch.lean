import Mathlib.Data.List.Basic
import Mathlib.Tactic

/-!
# The first element with a property

Lists that a program searches from the front: the element it finds is changed
or removed.  What a count over the list loses and gains is stated as an
equation of sums, so that no subtraction appears.
-/

namespace FirstMatch

variable {α β : Type*}

/-- The first element with a property, changed. -/
def updateFirst (chosen : α → Bool) (change : α → α) : List α → List α
  | [] => []
  | element :: rest =>
      if chosen element then change element :: rest
      else element :: updateFirst chosen change rest

theorem updateFirst_of_find?_eq_none
    {chosen : α → Bool} {list : List α} (change : α → α)
    (hfind : list.find? chosen = none) :
    updateFirst chosen change list = list := by
  induction list with
  | nil => rfl
  | cons element rest ih =>
      have hnot : chosen element = false := by
        have hall := List.find?_eq_none.mp hfind element List.mem_cons_self
        simpa using hall
      rw [List.find?_cons_of_neg (by simp [hnot])] at hfind
      simp [updateFirst, hnot, ih hfind]

/-- What the change of one element does to a count. -/
theorem countP_updateFirst
    {chosen : α → Bool} {list : List α} {element : α} (change : α → α)
    (counted : α → Bool) (hfind : list.find? chosen = some element) :
    (updateFirst chosen change list).countP counted +
        (if counted element then 1 else 0) =
      list.countP counted +
        (if counted (change element) then 1 else 0) := by
  induction list with
  | nil => simp at hfind
  | cons first rest ih =>
      by_cases hchosen : chosen first = true
      · rw [List.find?_cons_of_pos hchosen, Option.some.injEq] at hfind
        subst hfind
        simp only [updateFirst, hchosen, if_true, List.countP_cons]
        omega
      · rw [List.find?_cons_of_neg hchosen] at hfind
        have hrest := ih hfind
        simp only [updateFirst, hchosen, Bool.false_eq_true, if_false,
          List.countP_cons]
        omega

theorem countP_updateFirst_of_same
    (chosen : α → Bool) {change : α → α} {counted : α → Bool}
    (hsame : ∀ element, counted (change element) = counted element)
    (list : List α) :
    (updateFirst chosen change list).countP counted = list.countP counted := by
  cases hfind : list.find? chosen with
  | none => rw [updateFirst_of_find?_eq_none change hfind]
  | some element =>
      have hcount := countP_updateFirst change counted hfind
      rw [hsame] at hcount
      omega

/-- What the removal of one element does to a count. -/
theorem countP_eraseP
    {chosen : α → Bool} {list : List α} {element : α} (counted : α → Bool)
    (hfind : list.find? chosen = some element) :
    (list.eraseP chosen).countP counted +
        (if counted element then 1 else 0) =
      list.countP counted := by
  have hsplit := List.find?_eq_some_iff_append.mp hfind
  rcases hsplit with ⟨hchosen, before, after, hlist, hbefore⟩
  have hrest : ∀ other ∈ before, ¬ chosen other = true := by
    intro other hother
    simpa using hbefore other hother
  rw [hlist, List.eraseP_append_right _ hrest,
    List.eraseP_cons_of_pos hchosen]
  simp only [List.countP_append, List.countP_cons]
  omega

theorem map_updateFirst_of_same
    (chosen : α → Bool) {change : α → α} {view : α → β}
    (hsame : ∀ element, view (change element) = view element)
    (list : List α) :
    (updateFirst chosen change list).map view = list.map view := by
  induction list with
  | nil => rfl
  | cons first rest ih =>
      unfold updateFirst
      split_ifs
      · rw [List.map_cons, List.map_cons, hsame]
      · rw [List.map_cons, List.map_cons, ih]

theorem length_updateFirst
    (chosen : α → Bool) (change : α → α) (list : List α) :
    (updateFirst chosen change list).length = list.length := by
  induction list with
  | nil => rfl
  | cons first rest ih =>
      unfold updateFirst
      split_ifs
      · rfl
      · rw [List.length_cons, List.length_cons, ih]

/-- A search that does not see the changes, seen through a view that does not
either. -/
theorem find?_updateFirst_map
    (chosen : α → Bool) {change : α → α} {searched : α → Bool}
    {view : α → β} (hsearched : ∀ element,
      searched (change element) = searched element)
    (hview : ∀ element, view (change element) = view element)
    (list : List α) :
    ((updateFirst chosen change list).find? searched).map view =
      (list.find? searched).map view := by
  induction list with
  | nil => rfl
  | cons first rest ih =>
      unfold updateFirst
      split_ifs with hchosen
      · by_cases hfirst : searched first = true
        · rw [List.find?_cons_of_pos (by rw [hsearched]; exact hfirst),
            List.find?_cons_of_pos hfirst]
          exact congrArg some (hview first)
        · rw [List.find?_cons_of_neg (by rw [hsearched]; exact hfirst),
            List.find?_cons_of_neg hfirst]
      · by_cases hfirst : searched first = true
        · rw [List.find?_cons_of_pos hfirst, List.find?_cons_of_pos hfirst]
        · rw [List.find?_cons_of_neg hfirst, List.find?_cons_of_neg hfirst]
          exact ih

theorem mem_updateFirst
    {chosen : α → Bool} {change : α → α} {list : List α} {element : α}
    (hmem : element ∈ updateFirst chosen change list) :
    element ∈ list ∨ ∃ changed, list.find? chosen = some changed ∧
      element = change changed := by
  induction list with
  | nil => exact absurd hmem List.not_mem_nil
  | cons first rest ih =>
      unfold updateFirst at hmem
      split_ifs at hmem with hchosen
      · rcases List.mem_cons.mp hmem with hfirst | hrest
        · exact Or.inr ⟨first, List.find?_cons_of_pos hchosen, hfirst⟩
        · exact Or.inl (List.mem_cons_of_mem first hrest)
      · rcases List.mem_cons.mp hmem with hfirst | hrest
        · exact Or.inl (by rw [hfirst]; exact List.mem_cons_self)
        · rcases ih hrest with hold | ⟨changed, hfind, heq⟩
          · exact Or.inl (List.mem_cons_of_mem first hold)
          · refine Or.inr ⟨changed, ?_, heq⟩
            rw [List.find?_cons_of_neg hchosen]
            exact hfind

theorem change_mem_updateFirst
    {chosen : α → Bool} {list : List α} {element : α} (change : α → α)
    (hfind : list.find? chosen = some element) :
    change element ∈ updateFirst chosen change list := by
  induction list with
  | nil => simp at hfind
  | cons first rest ih =>
      unfold updateFirst
      split_ifs with hchosen
      · rw [List.find?_cons_of_pos hchosen, Option.some.injEq] at hfind
        rw [hfind]
        exact List.mem_cons_self
      · rw [List.find?_cons_of_neg hchosen] at hfind
        exact List.mem_cons_of_mem first (ih hfind)

theorem updateFirst_of_fixed
    {chosen : α → Bool} {change : α → α} {list : List α} {element : α}
    (hfixed : change element = element)
    (hfind : list.find? chosen = some element) :
    updateFirst chosen change list = list := by
  induction list with
  | nil => rfl
  | cons first rest ih =>
      unfold updateFirst
      split_ifs with hchosen
      · rw [List.find?_cons_of_pos hchosen, Option.some.injEq] at hfind
        rw [hfind, hfixed]
      · rw [List.find?_cons_of_neg hchosen] at hfind
        rw [ih hfind]

section Keys

variable [DecidableEq β] {key : α → β} {list : List α} {element : α}

theorem eq_of_find?_key {target : β} {other : α}
    (hnodup : (list.map key).Nodup)
    (hfind : list.find? (fun element => key element = target) = some element)
    (hother : other ∈ list) (hkey : key other = target) :
    other = element := by
  apply List.inj_on_of_nodup_map hnodup hother
    (List.mem_of_find?_eq_some hfind)
  have hfound := List.find?_some hfind
  rw [decide_eq_true_eq] at hfound
  rw [hkey, hfound]

/-- The removal of the element with a key. -/
theorem mem_eraseP_key (hnodup : (list.map key).Nodup) (target : β) :
    element ∈ list.eraseP (fun element => key element = target) ↔
      element ∈ list ∧ key element ≠ target := by
  induction list with
  | nil => simp
  | cons first rest ih =>
      rw [List.map_cons, List.nodup_cons] at hnodup
      by_cases hfirst : key first = target
      · rw [List.eraseP_cons_of_pos (by simpa using hfirst)]
        constructor
        · intro hrest
          refine ⟨List.mem_cons_of_mem first hrest, ?_⟩
          intro hkey
          apply hnodup.1
          rw [hfirst, ← hkey]
          exact List.mem_map_of_mem hrest
        · rintro ⟨hmem, hkey⟩
          rcases List.mem_cons.mp hmem with heq | hrest
          · rw [heq] at hkey
            exact absurd hfirst hkey
          · exact hrest
      · rw [List.eraseP_cons_of_neg (by simpa using hfirst), List.mem_cons,
          ih hnodup.2, List.mem_cons]
        constructor
        · rintro (heq | ⟨hrest, hkey⟩)
          · rw [heq]
            exact ⟨Or.inl rfl, hfirst⟩
          · exact ⟨Or.inr hrest, hkey⟩
        · rintro ⟨heq | hrest, hkey⟩
          · exact Or.inl heq
          · exact Or.inr ⟨hrest, hkey⟩

/-- The change of the element with a key. -/
theorem mem_updateFirst_key {target : β} {change : α → α} {found : α}
    (hnodup : (list.map key).Nodup)
    (hfind : list.find? (fun element => key element = target) = some found) :
    element ∈ updateFirst (fun element => key element = target) change list ↔
      element = change found ∨ element ∈ list ∧ key element ≠ target := by
  induction list with
  | nil => simp at hfind
  | cons first rest ih =>
      rw [List.map_cons, List.nodup_cons] at hnodup
      by_cases hfirst : key first = target
      · rw [List.find?_cons_of_pos (by simpa using hfirst),
          Option.some.injEq] at hfind
        have hkeys : ∀ other ∈ rest, key other ≠ target := by
          intro other hother hkey
          apply hnodup.1
          rw [hfirst, ← hkey]
          exact List.mem_map_of_mem hother
        rw [updateFirst, if_pos (by simpa using hfirst), hfind,
          List.mem_cons, List.mem_cons]
        constructor
        · rintro (heq | hrest)
          · exact Or.inl heq
          · exact Or.inr ⟨Or.inr hrest, hkeys element hrest⟩
        · rintro (heq | ⟨heq | hrest, hkey⟩)
          · exact Or.inl heq
          · rw [heq, ← hfind] at hkey
            exact absurd hfirst hkey
          · exact Or.inr hrest
      · rw [List.find?_cons_of_neg (by simpa using hfirst)] at hfind
        rw [updateFirst, if_neg (by simpa using hfirst), List.mem_cons,
          ih hnodup.2 hfind, List.mem_cons]
        constructor
        · rintro (heq | heq | ⟨hrest, hkey⟩)
          · rw [heq]
            exact Or.inr ⟨Or.inl rfl, hfirst⟩
          · exact Or.inl heq
          · exact Or.inr ⟨Or.inr hrest, hkey⟩
        · rintro (heq | ⟨heq | hrest, hkey⟩)
          · exact Or.inr (Or.inl heq)
          · exact Or.inl heq
          · exact Or.inr (Or.inr ⟨hrest, hkey⟩)

/-- The change of the element with a key, as a change of the whole list. -/
theorem updateFirst_key_eq_map (hnodup : (list.map key).Nodup)
    (target : β) (change : α → α) :
    updateFirst (fun element => key element = target) change list =
      list.map fun element =>
        if key element = target then change element else element := by
  induction list with
  | nil => rfl
  | cons first rest ih =>
      rw [List.map_cons, List.nodup_cons] at hnodup
      rw [List.map_cons]
      by_cases hfirst : key first = target
      · have hrest : rest.map (fun element =>
            if key element = target then change element else element) =
              rest := by
          conv_rhs => rw [← List.map_id rest]
          apply List.map_congr_left
          intro other hother
          apply if_neg
          intro hkey
          apply hnodup.1
          rw [hfirst, ← hkey]
          exact List.mem_map_of_mem hother
        rw [updateFirst, if_pos (by simpa using hfirst), if_pos hfirst, hrest]
      · rw [updateFirst, if_neg (by simpa using hfirst), if_neg hfirst,
          ih hnodup.2]

end Keys

end FirstMatch
