import EziotSdk.NodeLists

/-!
# Places in lists of nodes

A search that walks down a tree of fixed depth chooses one node in each list.
Its place is the list of the positions it chose, so two searches end in the
same node exactly when they have the same place.
-/

namespace NodeLists

variable {α β γ ρ : Type*}

/-! ## Lists that differ in what a search does not see -/

section Same

variable {same : α → α → Prop} {change : α → α}

theorem forall₂_map (hchange : ∀ node, same node (change node))
    (list : List α) : List.Forall₂ same list (list.map change) := by
  rw [List.forall₂_map_right_iff, List.forall₂_same]
  exact fun node _ => hchange node

theorem forall₂_updateFirst (hrefl : ∀ node, same node node)
    (hchange : ∀ node, same node (change node)) (chosen : α → Bool)
    (list : List α) :
    List.Forall₂ same list (FirstMatch.updateFirst chosen change list) := by
  induction list with
  | nil => exact List.Forall₂.nil
  | cons first rest ih =>
      unfold FirstMatch.updateFirst
      split_ifs
      · exact List.Forall₂.cons (hchange first)
          (List.forall₂_same.mpr fun node _ => hrefl node)
      · exact List.Forall₂.cons (hrefl first) ih

theorem forall₂_modify (hrefl : ∀ node, same node node)
    (hchange : ∀ node, same node (change node)) (place : ℕ)
    (list : List α) : List.Forall₂ same list (list.modify place change) := by
  induction list generalizing place with
  | nil => simp
  | cons first rest ih =>
      cases place with
      | zero =>
          exact List.Forall₂.cons (hchange first)
            (List.forall₂_same.mpr fun node _ => hrefl node)
      | succ place => exact List.Forall₂.cons (hrefl first) (ih place)

theorem forall₂_modifyLeaf {leaves : α → List β} {change : ℕ → α → α}
    (hrefl : ∀ node, same node node)
    (hchange : ∀ place node, same node (change place node)) (place : ℕ)
    (list : List α) :
    List.Forall₂ same list (modifyLeaf leaves change place list) := by
  induction list generalizing place with
  | nil => exact List.Forall₂.nil
  | cons first rest ih =>
      unfold modifyLeaf
      split_ifs
      · exact List.Forall₂.cons (hchange place first)
          (List.forall₂_same.mpr fun node _ => hrefl node)
      · exact List.Forall₂.cons (hrefl first) (ih _)

/-- A search finds in both lists, seen through a view, the same. -/
theorem find?_bind_of_forall₂ {searched : α → Bool} {view : α → Option γ}
    {list changed : List α}
    (hsame : List.Forall₂ same list changed)
    (hsearched : ∀ old new, same old new → searched new = searched old)
    (hview : ∀ old new, same old new → view new = view old) :
    (changed.find? searched).bind view = (list.find? searched).bind view := by
  induction hsame with
  | nil => rfl
  | @cons old new rest more hfirst hrest ih =>
      rw [List.find?_cons, List.find?_cons, hsearched old new hfirst]
      cases searched old with
      | true => exact hview old new hfirst
      | false => exact ih

end Same

/-! ## A search after a registration -/

section Registration

variable [DecidableEq β] {name : α → β} {list : List α} {given target : β}
  {found : α → α} {node : α}

theorem find?_updateFirst_name (hname : ∀ node, name (found node) = name node)
    (hfind : list.find? (fun node => name node = target) = some node) :
    (FirstMatch.updateFirst (fun node => name node = given) found list).find?
        (fun node => name node = target) =
      some (if target = given then found node else node) := by
  induction list with
  | nil => simp at hfind
  | cons first rest ih =>
      by_cases htarget : name first = target
      · rw [List.find?_cons_of_pos (by simpa using htarget),
          Option.some.injEq] at hfind
        unfold FirstMatch.updateFirst
        by_cases hgiven : name first = given
        · have heq : target = given := htarget.symm.trans hgiven
          rw [if_pos (by simpa using hgiven), if_pos heq, ← hfind]
          apply List.find?_cons_of_pos
          rw [hname]
          simpa using htarget
        · have hne : target ≠ given := fun heq => hgiven (htarget.trans heq)
          rw [if_neg (by simpa using hgiven), if_neg hne, ← hfind]
          apply List.find?_cons_of_pos
          simpa using htarget
      · rw [List.find?_cons_of_neg (by simpa using htarget)] at hfind
        unfold FirstMatch.updateFirst
        split_ifs with hgiven htrue htrue
        · simp only [decide_eq_true_eq] at hgiven
          exact absurd (hgiven.trans htrue.symm) htarget
        · rw [List.find?_cons_of_neg]
          · exact hfind
          · rw [hname]
            simpa using htarget
        · rw [List.find?_cons_of_neg (by simpa using htarget), ih hfind,
            if_pos htrue]
        · rw [List.find?_cons_of_neg (by simpa using htarget), ih hfind,
            if_neg htrue]

/-- What was found stays found. -/
theorem find?_findOrAdd_of_some
    (hname : ∀ node, name (found node) = name node) (created : α)
    (hfind : list.find? (fun node => name node = target) = some node) :
    (FirstMatch.findOrAdd (fun node => name node = given) found created
        list).find? (fun node => name node = target) =
      some (if target = given then found node else node) := by
  cases hgiven : list.find? fun node => name node = given with
  | none =>
      have hne : target ≠ given := by
        intro heq
        rw [heq, hgiven] at hfind
        cases hfind
      rw [FirstMatch.findOrAdd_of_none found created hgiven,
        List.find?_append, hfind, if_neg hne]
      rfl
  | some first =>
      rw [FirstMatch.findOrAdd_of_some found created hgiven]
      exact find?_updateFirst_name hname hfind

/-- What a registration names is found, if its name is stored as given. -/
theorem find?_findOrAdd_self
    (hname : ∀ node, name (found node) = name node) {created : α}
    (hcreated : name created = given) (list : List α) :
    (FirstMatch.findOrAdd (fun node => name node = given) found created
        list).find? (fun node => name node = given) =
      some ((list.find? fun node => name node = given).elim created
        found) := by
  cases hgiven : list.find? fun node => name node = given with
  | none =>
      rw [FirstMatch.findOrAdd_of_none found created hgiven,
        List.find?_append, hgiven, Option.none_or, Option.elim_none]
      apply List.find?_cons_of_pos
      simpa using hcreated
  | some first =>
      rw [find?_findOrAdd_of_some hname created hgiven, if_pos rfl,
        Option.elim_some]

/-- What is known of a search, carried through a registration: `known` before,
`later` after one that has the searched name. -/
theorem find?_bind_findOrAdd {view : α → Option γ} {known later : Option γ}
    {created : α} (hname : ∀ node, name (found node) = name node)
    (hcreated : given = target → name created = given)
    (hnew : known = none → ∀ seen, later = some seen →
      view created = some seen)
    (hfound : ∀ node, (∀ seen, known = some seen → view node = some seen) →
      ∀ seen, later = some seen → view (found node) = some seen)
    (hbefore : ∀ seen, known = some seen →
      (list.find? fun node => name node = target).bind view = some seen) :
    ∀ seen, (if given = target then later else known) = some seen →
      ((FirstMatch.findOrAdd (fun node => name node = given) found created
        list).find? fun node => name node = target).bind view =
          some seen := by
  intro seen hseen
  by_cases heq : given = target
  · subst heq
    rw [if_pos rfl] at hseen
    rw [find?_findOrAdd_self hname (hcreated rfl), Option.bind_some]
    cases hfind : list.find? fun node => name node = given with
    | none =>
        apply hnew _ seen hseen
        rw [Option.eq_none_iff_forall_ne_some]
        intro early hearly
        have hnone := hbefore early hearly
        rw [hfind] at hnone
        cases hnone
    | some node =>
        apply hfound node _ seen hseen
        intro early hearly
        have hview := hbefore early hearly
        rw [hfind] at hview
        exact hview
  · rw [if_neg heq] at hseen
    rcases Option.bind_eq_some_iff.mp (hbefore seen hseen) with
      ⟨node, hfind, hview⟩
    rw [find?_findOrAdd_of_some hname created hfind,
      if_neg (Ne.symm heq), Option.bind_some]
    exact hview

end Registration

/-! ## Places -/

/-- The position of the first chosen node, and the place below it. -/
def locate (chosen : α → Bool) (below : α → Option ρ) (list : List α) :
    Option (ℕ × ρ) :=
  (list.findIdx? chosen).bind fun position =>
    (list[position]?.bind below).map (Prod.mk position)

section Locate

variable {chosen : α → Bool} {below : α → Option ρ} {list : List α}

theorem find?_of_findIdx? {position : ℕ} {node : α}
    (hposition : list.findIdx? chosen = some position)
    (hnode : list[position]? = some node) :
    list.find? chosen = some node := by
  rw [List.find?_eq_bind_findIdx?_getElem?, hposition]
  exact hnode

theorem findIdx?_of_find? {node : α} (hfind : list.find? chosen = some node) :
    ∃ position, list.findIdx? chosen = some position ∧
      list[position]? = some node := by
  rw [List.find?_eq_bind_findIdx?_getElem?] at hfind
  exact Option.bind_eq_some_iff.mp hfind

theorem locate_eq_some_iff {position : ℕ} {place : ρ} :
    locate chosen below list = some (position, place) ↔
      list.findIdx? chosen = some position ∧
        ∃ node, list[position]? = some node ∧ below node = some place := by
  unfold locate
  rw [Option.bind_eq_some_iff]
  constructor
  · rintro ⟨found, hfound, hmap⟩
    rcases Option.map_eq_some_iff.mp hmap with ⟨rest, hrest, heq⟩
    cases heq
    exact ⟨hfound, Option.bind_eq_some_iff.mp hrest⟩
  · rintro ⟨hfound, hbelow⟩
    refine ⟨position, hfound, ?_⟩
    rw [Option.bind_eq_some_iff.mpr hbelow]
    rfl

/-- Of one leaf with a property, the walk from leaf to leaf finds the node. -/
theorem findIdx?_any_of_unique {leaves : α → List β} {wanted : β → Bool}
    {position : ℕ} {node : α}
    (hunique : (list.flatMap leaves).countP wanted ≤ 1)
    (hnode : list[position]? = some node)
    (hwanted : (leaves node).any wanted = true) :
    list.findIdx? (fun node => (leaves node).any wanted) = some position := by
  have hcount {other : α} (hany : (leaves other).any wanted = true) :
      0 < (leaves other).countP wanted := by
    rw [List.countP_pos_iff]
    exact List.any_eq_true.mp hany
  induction list generalizing position with
  | nil => simp at hnode
  | cons first rest ih =>
      rw [List.flatMap_cons, List.countP_append] at hunique
      cases position with
      | zero =>
          rw [List.getElem?_cons_zero, Option.some.injEq] at hnode
          rw [List.findIdx?_cons, hnode, hwanted]
          rfl
      | succ position =>
          rw [List.getElem?_cons_succ] at hnode
          have hmem := List.mem_of_getElem? hnode
          have hrest : 0 < (rest.flatMap leaves).countP wanted := by
            rw [List.countP_pos_iff]
            rcases List.any_eq_true.mp hwanted with ⟨leaf, hleaf, htrue⟩
            exact ⟨leaf, List.mem_flatMap.mpr ⟨node, hmem, hleaf⟩, htrue⟩
          have hfirst : (leaves first).any wanted = false := by
            rw [← Bool.not_eq_true]
            intro hany
            have hpos := hcount hany
            omega
          rw [List.findIdx?_cons, hfirst, ih (by omega) hnode]
          rfl

theorem countP_leaves_le {leaves : α → List β} {wanted : β → Bool}
    {node : α} (hmem : node ∈ list) :
    (leaves node).countP wanted ≤ (list.flatMap leaves).countP wanted := by
  apply List.Sublist.countP_le
  exact List.sublist_flatten_of_mem (List.mem_map_of_mem hmem)

end Locate

/-! ## Places after a change -/

theorem getElem?_updateFirst (chosen : α → Bool) (change : α → α)
    (list : List α) (place : ℕ) :
    (FirstMatch.updateFirst chosen change list)[place]? = list[place]? ∨
      (FirstMatch.updateFirst chosen change list)[place]? =
        list[place]?.map change := by
  induction list generalizing place with
  | nil => exact Or.inl rfl
  | cons first rest ih =>
      unfold FirstMatch.updateFirst
      split_ifs
      · cases place with
        | zero => exact Or.inr rfl
        | succ place => exact Or.inl rfl
      · cases place with
        | zero => exact Or.inl rfl
        | succ place => exact ih place

/-- A place after a registration holds what it held, changed or not, or the
new node. -/
theorem getElem?_findOrAdd (chosen : α → Bool) (found : α → α)
    (created : α) (list : List α) (place : ℕ) :
    (FirstMatch.findOrAdd chosen found created list)[place]? =
        list[place]? ∨
      (FirstMatch.findOrAdd chosen found created list)[place]? =
        list[place]?.map found ∨
      list[place]? = none ∧
        (FirstMatch.findOrAdd chosen found created list)[place]? =
          some created := by
  cases hfind : list.find? chosen with
  | some node =>
      rw [FirstMatch.findOrAdd_of_some found created hfind]
      rcases getElem?_updateFirst chosen found list place with hsame | hchanged
      · exact Or.inl hsame
      · exact Or.inr (Or.inl hchanged)
  | none =>
      rw [FirstMatch.findOrAdd_of_none found created hfind]
      rcases Nat.lt_trichotomy place list.length with hlt | heq | hgt
      · exact Or.inl (List.getElem?_append_left hlt)
      · right
        right
        rw [heq]
        simp
      · left
        rw [List.getElem?_eq_none hgt.le, List.getElem?_eq_none]
        simp
        omega

section View

variable {seen : Option γ → Option γ → Prop} {view : α → Option γ}
  {change : α → α}

theorem seen_updateFirst (hrefl : ∀ value, seen value value)
    (hchange : ∀ node, seen (view node) (view (change node)))
    (chosen : α → Bool) (list : List α) (place : ℕ) :
    seen (list[place]?.bind view)
      ((FirstMatch.updateFirst chosen change list)[place]?.bind view) := by
  rcases getElem?_updateFirst chosen change list place with hsame | hchanged
  · rw [hsame]
    exact hrefl _
  · rw [hchanged]
    cases list[place]? with
    | none => exact hrefl none
    | some node => exact hchange node

theorem seen_findOrAdd (hrefl : ∀ value, seen value value)
    (hfound : ∀ node, seen (view node) (view (change node))) {created : α}
    (hcreated : seen none (view created)) (chosen : α → Bool)
    (list : List α) (place : ℕ) :
    seen (list[place]?.bind view)
      ((FirstMatch.findOrAdd chosen change created list)[place]?.bind
        view) := by
  rcases getElem?_findOrAdd chosen change created list place with
    hsame | hchanged | ⟨hnone, hnew⟩
  · rw [hsame]
    exact hrefl _
  · rw [hchanged]
    cases list[place]? with
    | none => exact hrefl none
    | some node => exact hfound node
  · rw [hnone, hnew]
    exact hcreated

end View

end NodeLists
