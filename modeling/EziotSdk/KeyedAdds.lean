import Mathlib.Data.List.Basic
import Mathlib.Data.List.Induction
import Mathlib.Data.List.Nodup

/-!
# Lists that take each key once

An element joins a list when no element there has its key.
-/

namespace KeyedAdds

variable {α κ : Type*} [DecidableEq κ] (key : α → κ)

def addNew (list : List α) (element : α) : List α :=
  if key element ∈ list.map key then list else list ++ [element]

def addAll (list elements : List α) : List α :=
  elements.foldl (addNew key) list

/-- The first element of each key, in the order of the list. -/
def firstPerKey (elements : List α) : List α := addAll key [] elements

variable {key} {list elements : List α} {element : α}

theorem addNew_of_mem (hmem : key element ∈ list.map key) :
    addNew key list element = list :=
  if_pos hmem

theorem addNew_of_not_mem (hmem : key element ∉ list.map key) :
    addNew key list element = list ++ [element] :=
  if_neg hmem

theorem nodup_addNew (hnodup : (list.map key).Nodup) (element : α) :
    ((addNew key list element).map key).Nodup := by
  by_cases hmem : key element ∈ list.map key
  · rw [addNew_of_mem hmem]
    exact hnodup
  · rw [addNew_of_not_mem hmem, List.map_append, List.map_singleton]
    exact List.nodup_append.mpr ⟨hnodup, List.nodup_singleton _, by
      intro first hfirst last hlast hsame
      rw [List.mem_singleton.mp hlast] at hsame
      exact hmem (hsame ▸ hfirst)⟩

theorem nodup_addAll (hnodup : (list.map key).Nodup) (elements : List α) :
    ((addAll key list elements).map key).Nodup := by
  induction elements generalizing list with
  | nil => exact hnodup
  | cons first rest ih => exact ih (nodup_addNew hnodup first)

theorem nodup_firstPerKey (elements : List α) :
    ((firstPerKey key elements).map key).Nodup :=
  @nodup_addAll α κ _ key [] List.nodup_nil elements

theorem addAll_concat :
    addAll key list (elements ++ [element]) =
      addNew key (addAll key list elements) element := by
  rw [addAll, List.foldl_append]
  rfl

theorem firstPerKey_concat :
    firstPerKey key (elements ++ [element]) =
      addNew key (firstPerKey key elements) element :=
  addAll_concat

/-- The list, and the first elements of the keys that it does not have. -/
theorem addAll_eq_append_filter :
    addAll key list elements =
      list ++ (firstPerKey key elements).filter fun element =>
        key element ∉ list.map key := by
  induction elements using List.reverseRecOn with
  | nil => simp [addAll, firstPerKey]
  | append_singleton elements element ih =>
      rw [addAll_concat, firstPerKey_concat, ih]
      by_cases hlist : key element ∈ list.map key
      · have hmem : key element ∈ (list ++ (firstPerKey key elements).filter
            fun other => key other ∉ list.map key).map key := by
          rw [List.map_append, List.mem_append]
          exact Or.inl hlist
        rw [addNew_of_mem hmem]
        by_cases hfirst : key element ∈ (firstPerKey key elements).map key
        · rw [addNew_of_mem hfirst]
        · rw [addNew_of_not_mem hfirst, List.filter_append,
            List.filter_singleton, decide_eq_false (not_not.mpr hlist)]
          simp
      · by_cases hfirst : key element ∈ (firstPerKey key elements).map key
        · have hmem : key element ∈ (list ++
              (firstPerKey key elements).filter
                fun other => key other ∉ list.map key).map key := by
            rcases List.mem_map.mp hfirst with ⟨other, hother, hsame⟩
            rw [List.map_append, List.mem_append]
            right
            refine List.mem_map.mpr ⟨other, ?_, hsame⟩
            rw [List.mem_filter, decide_eq_true_eq, hsame]
            exact ⟨hother, hlist⟩
          rw [addNew_of_mem hmem, addNew_of_mem hfirst]
        · have hmem : key element ∉ (list ++
              (firstPerKey key elements).filter
                fun other => key other ∉ list.map key).map key := by
            rw [List.map_append, List.mem_append, not_or]
            refine ⟨hlist, ?_⟩
            intro hlater
            rcases List.mem_map.mp hlater with ⟨other, hother, hsame⟩
            exact hfirst (List.mem_map.mpr
              ⟨other, (List.mem_filter.mp hother).1, hsame⟩)
          rw [addNew_of_not_mem hmem, addNew_of_not_mem hfirst,
            List.filter_append, List.filter_singleton, decide_eq_true hlist,
            List.append_assoc]
          simp

theorem prefix_addAll : list <+: addAll key list elements := by
  rw [addAll_eq_append_filter]
  exact List.prefix_append _ _

theorem mem_of_mem_firstPerKey (hmem : element ∈ firstPerKey key elements) :
    element ∈ elements := by
  induction elements using List.reverseRecOn with
  | nil => exact hmem
  | append_singleton elements last ih =>
      rw [firstPerKey_concat] at hmem
      rw [List.mem_append, List.mem_singleton]
      by_cases hlast : key last ∈ (firstPerKey key elements).map key
      · rw [addNew_of_mem hlast] at hmem
        exact Or.inl (ih hmem)
      · rw [addNew_of_not_mem hlast, List.mem_append,
          List.mem_singleton] at hmem
        exact hmem.imp_left ih

/-- Every key of a list has a first element. -/
theorem key_mem_firstPerKey (hmem : element ∈ elements) :
    key element ∈ (firstPerKey key elements).map key := by
  induction elements using List.reverseRecOn with
  | nil => cases hmem
  | append_singleton elements last ih =>
      rw [firstPerKey_concat]
      rcases List.mem_append.mp hmem with hearlier | hlast
      · by_cases hold : key last ∈ (firstPerKey key elements).map key
        · rw [addNew_of_mem hold]
          exact ih hearlier
        · rw [addNew_of_not_mem hold, List.map_append, List.mem_append]
          exact Or.inl (ih hearlier)
      · rw [List.mem_singleton.mp hlast]
        by_cases hold : key last ∈ (firstPerKey key elements).map key
        · rw [addNew_of_mem hold]
          exact hold
        · rw [addNew_of_not_mem hold, List.map_append, List.mem_append]
          exact Or.inr (List.mem_singleton_self _)

theorem addAll_eq_self_iff :
    addAll key list elements = list ↔
      ∀ element ∈ elements, key element ∈ list.map key := by
  rw [addAll_eq_append_filter, List.append_right_eq_self,
    List.filter_eq_nil_iff]
  constructor
  · intro hnone element hmem
    have hkey : key element ∈ (firstPerKey key elements).map key :=
      key_mem_firstPerKey hmem
    rcases List.mem_map.mp hkey with ⟨first, hfirst, hsame⟩
    have hold := hnone first hfirst
    rw [decide_eq_true_eq, not_not, hsame] at hold
    exact hold
  · intro hall first hfirst
    rw [decide_eq_true_eq, not_not]
    exact hall first (mem_of_mem_firstPerKey hfirst)

/-- A list takes no part in the result when it begins the first elements of
the new keys. -/
theorem addAll_eq_firstPerKey_iff :
    addAll key list elements = firstPerKey key elements ↔
      list <+: firstPerKey key elements := by
  constructor
  · intro hsame
    rw [← hsame]
    exact prefix_addAll
  · rintro ⟨rest, hrest⟩
    have hnodup : ((firstPerKey key elements).map key).Nodup :=
      nodup_firstPerKey elements
    rw [← hrest, List.map_append, List.nodup_append] at hnodup
    rw [addAll_eq_append_filter, ← hrest, List.filter_append]
    have hlist : list.filter (fun element => key element ∉ list.map key) =
        [] := by
      rw [List.filter_eq_nil_iff]
      intro element hmem
      rw [decide_eq_true_eq, not_not]
      exact List.mem_map_of_mem hmem
    have hothers : rest.filter (fun element => key element ∉ list.map key) =
        rest := by
      rw [List.filter_eq_self]
      intro element hmem
      rw [decide_eq_true_eq]
      intro hold
      exact hnodup.2.2 _ hold _ (List.mem_map_of_mem hmem) rfl
    rw [hlist, hothers, List.nil_append]

/-- A filter leaves the first elements alone exactly if they all pass. -/
theorem firstPerKey_filter_eq_iff {p : α → Bool} :
    firstPerKey key (elements.filter p) = firstPerKey key elements ↔
      ∀ element ∈ firstPerKey key elements, p element = true := by
  constructor
  · intro hsame element hmem
    rw [← hsame] at hmem
    exact (List.mem_filter.mp (mem_of_mem_firstPerKey hmem)).2
  · induction elements using List.reverseRecOn with
    | nil => exact fun _ => rfl
    | append_singleton elements last ih =>
        intro hall
        rw [firstPerKey_concat] at hall ⊢
        have hsub : ∀ element ∈ firstPerKey key elements,
            p element = true := by
          intro element hmem
          apply hall
          by_cases hold : key last ∈ (firstPerKey key elements).map key
          · rw [addNew_of_mem hold]
            exact hmem
          · rw [addNew_of_not_mem hold, List.mem_append]
            exact Or.inl hmem
        rw [List.filter_append, List.filter_singleton]
        by_cases hpass : p last = true
        · rw [hpass, cond_true, firstPerKey_concat, ih hsub]
        · rw [Bool.eq_false_iff.mpr hpass, cond_false,
            List.append_nil, ih hsub]
          by_cases hold : key last ∈ (firstPerKey key elements).map key
          · rw [addNew_of_mem hold]
          · rw [addNew_of_not_mem hold] at hall
            exact absurd (hall last (by simp)) hpass

end KeyedAdds
