import EziotSdk.FirstMatch

/-!
# Lists of nodes that hold lists

A tree of fixed depth is a list of nodes with a list in each.  What a program
does in one node, or in every node, is seen here in the list of all leaves, in
their order: a change of one leaf replaces one element of that list, whichever
way the leaf was reached.
-/

namespace FirstMatch

variable {α β γ : Type*}

/-- The first element with a property changed; one appended when there is
none. -/
def findOrAdd (chosen : α → Bool) (found : α → α) (created : α)
    (list : List α) : List α :=
  match list.find? chosen with
  | some _ => updateFirst chosen found list
  | none => list ++ [created]

theorem findOrAdd_of_none
    {chosen : α → Bool} {list : List α} (found : α → α) (created : α)
    (hfind : list.find? chosen = none) :
    findOrAdd chosen found created list = list ++ [created] := by
  simp only [findOrAdd, hfind]

theorem findOrAdd_of_some
    {chosen : α → Bool} {list : List α} {element : α} (found : α → α)
    (created : α) (hfind : list.find? chosen = some element) :
    findOrAdd chosen found created list = updateFirst chosen found list := by
  simp only [findOrAdd, hfind]

theorem mem_findOrAdd
    {chosen : α → Bool} {list : List α} {found : α → α}
    {created element : α}
    (hmem : element ∈ findOrAdd chosen found created list) :
    element ∈ list ∨
      (∃ changed, list.find? chosen = some changed ∧
        element = found changed) ∨
      list.find? chosen = none ∧ element = created := by
  cases hfind : list.find? chosen with
  | none =>
      rw [findOrAdd_of_none found created hfind, List.mem_append,
        List.mem_singleton] at hmem
      rcases hmem with hold | hnew
      · exact Or.inl hold
      · exact Or.inr (Or.inr ⟨rfl, hnew⟩)
  | some first =>
      rw [findOrAdd_of_some found created hfind] at hmem
      rcases mem_updateFirst hmem with hold | ⟨changed, hchanged, heq⟩
      · exact Or.inl hold
      · rw [hfind] at hchanged
        exact Or.inr (Or.inl ⟨changed, hchanged, heq⟩)

theorem updateFirst_append_of_any
    {chosen : α → Bool} {list : List α} (change : α → α)
    (hany : list.any chosen = true) (more : List α) :
    updateFirst chosen change (list ++ more) =
      updateFirst chosen change list ++ more := by
  induction list with
  | nil => simp at hany
  | cons first rest ih =>
      rw [List.cons_append, updateFirst, updateFirst]
      split_ifs with hchosen
      · rfl
      · rw [List.any_cons, Bool.or_eq_true] at hany
        rw [ih (hany.resolve_left hchosen)]
        rfl

theorem updateFirst_append_of_not_any
    {chosen : α → Bool} {list : List α} (change : α → α)
    (hany : list.any chosen = false) (more : List α) :
    updateFirst chosen change (list ++ more) =
      list ++ updateFirst chosen change more := by
  induction list with
  | nil => rfl
  | cons first rest ih =>
      rw [List.any_cons, Bool.or_eq_false_iff] at hany
      rw [List.cons_append, updateFirst, hany.1, if_neg Bool.false_ne_true,
        ih hany.2]
      rfl

/-- A view that the change keeps and that drops the created element. -/
theorem flatMap_findOrAdd_of_same
    {chosen : α → Bool} {found : α → α} {created : α} {view : α → List β}
    (hfound : ∀ element, view (found element) = view element)
    (hcreated : view created = []) (list : List α) :
    (findOrAdd chosen found created list).flatMap view =
      list.flatMap view := by
  cases hfind : list.find? chosen with
  | none =>
      rw [findOrAdd_of_none found created hfind, List.flatMap_append,
        List.flatMap_singleton, hcreated, List.append_nil]
  | some first =>
      rw [findOrAdd_of_some found created hfind, List.flatMap_def,
        List.flatMap_def, map_updateFirst_of_same chosen hfound]

end FirstMatch

namespace NodeLists

variable {α β γ : Type*}

/-! ## One element replaced -/

/-- The second list is the first with one element replaced. -/
def Replaces (old new : α) (list changed : List α) : Prop :=
  ∃ before after, list = before ++ old :: after ∧
    changed = before ++ new :: after

namespace Replaces

variable {old new : α} {list changed : List α}

theorem old_mem (hreplaces : Replaces old new list changed) : old ∈ list := by
  rcases hreplaces with ⟨before, after, hlist, -⟩
  rw [hlist]
  exact List.mem_append_right before List.mem_cons_self

theorem new_mem (hreplaces : Replaces old new list changed) :
    new ∈ changed := by
  rcases hreplaces with ⟨before, after, -, hchanged⟩
  rw [hchanged]
  exact List.mem_append_right before List.mem_cons_self

theorem mem (hreplaces : Replaces old new list changed) {element : α}
    (hmem : element ∈ changed) : element = new ∨ element ∈ list := by
  rcases hreplaces with ⟨before, after, hlist, hchanged⟩
  rw [hchanged, List.mem_append, List.mem_cons] at hmem
  rw [hlist, List.mem_append, List.mem_cons]
  rcases hmem with hbefore | hnew | hafter
  · exact Or.inr (Or.inl hbefore)
  · exact Or.inl hnew
  · exact Or.inr (Or.inr (Or.inr hafter))

theorem forall_mem (hreplaces : Replaces old new list changed)
    {property : α → Prop} (hall : ∀ element ∈ list, property element)
    (hnew : property new) : ∀ element ∈ changed, property element := by
  intro element hmem
  rcases hreplaces.mem hmem with heq | hold
  · exact heq ▸ hnew
  · exact hall element hold

theorem flatMap_eq (hreplaces : Replaces old new list changed)
    {view : α → List β} (hview : view new = view old) :
    changed.flatMap view = list.flatMap view := by
  rcases hreplaces with ⟨before, after, hlist, hchanged⟩
  rw [hlist, hchanged, List.flatMap_append, List.flatMap_cons, hview,
    List.flatMap_append, List.flatMap_cons]

theorem flatMap_sublist (hreplaces : Replaces old new list changed)
    {view : α → List β} (hview : view new = []) :
    (changed.flatMap view).Sublist (list.flatMap view) := by
  rcases hreplaces with ⟨before, after, hlist, hchanged⟩
  rw [hlist, hchanged, List.flatMap_append, List.flatMap_cons, hview,
    List.nil_append, List.flatMap_append, List.flatMap_cons]
  exact List.Sublist.append_left (List.sublist_append_right _ _) _

/-- The replaced element shows one thing, which none showed before. -/
theorem nodup_flatMap (hreplaces : Replaces old new list changed)
    {view : α → List β} {shown : β} (hview : view new = [shown])
    (hfresh : shown ∉ list.flatMap view) (hnodup : (list.flatMap view).Nodup) :
    (changed.flatMap view).Nodup ∧
      ∀ other ∈ changed.flatMap view,
        other = shown ∨ other ∈ list.flatMap view := by
  rcases hreplaces with ⟨before, after, hlist, hchanged⟩
  have hrest : (before.flatMap view ++ after.flatMap view).Sublist
      (list.flatMap view) := by
    rw [hlist, List.flatMap_append, List.flatMap_cons]
    exact List.Sublist.append_left (List.sublist_append_right _ _) _
  have hperm : (changed.flatMap view).Perm
      (shown :: (before.flatMap view ++ after.flatMap view)) := by
    rw [hchanged, List.flatMap_append, List.flatMap_cons, hview]
    exact List.perm_middle
  refine ⟨?_, ?_⟩
  · rw [hperm.nodup_iff, List.nodup_cons]
    exact ⟨fun hmem => hfresh (hrest.subset hmem), hnodup.sublist hrest⟩
  · intro other hmem
    rw [hperm.mem_iff, List.mem_cons] at hmem
    exact hmem.imp id fun hold => hrest.subset hold

/-- A leaf replaced in a replaced node. -/
theorem flatMap (hreplaces : Replaces old new list changed)
    {leaves : α → List β} {leaf leaf' : β}
    (hleaf : Replaces leaf leaf' (leaves old) (leaves new)) :
    Replaces leaf leaf' (list.flatMap leaves) (changed.flatMap leaves) := by
  rcases hreplaces with ⟨before, after, hlist, hchanged⟩
  rcases hleaf with ⟨first, last, hold, hnew⟩
  refine ⟨before.flatMap leaves ++ first, last ++ after.flatMap leaves,
    ?_, ?_⟩
  · rw [hlist, List.flatMap_append, List.flatMap_cons, hold]
    simp only [List.append_assoc, List.cons_append]
  · rw [hchanged, List.flatMap_append, List.flatMap_cons, hnew]
    simp only [List.append_assoc, List.cons_append]

end Replaces

theorem replaces_updateFirst
    {chosen : α → Bool} {list : List α} {element : α} (change : α → α)
    (hfind : list.find? chosen = some element) :
    Replaces element (change element) list
      (FirstMatch.updateFirst chosen change list) := by
  induction list with
  | nil => simp at hfind
  | cons first rest ih =>
      unfold FirstMatch.updateFirst
      split_ifs with hchosen
      · rw [List.find?_cons_of_pos hchosen, Option.some.injEq] at hfind
        exact ⟨[], rest, by rw [hfind]; rfl, by rw [hfind]; rfl⟩
      · rw [List.find?_cons_of_neg hchosen] at hfind
        rcases ih hfind with ⟨before, after, hlist, hchanged⟩
        exact ⟨first :: before, after, by rw [hlist]; rfl,
          by rw [hchanged]; rfl⟩

theorem replaces_modify
    {list : List α} {index : ℕ} {element : α} (change : α → α)
    (hget : list[index]? = some element) :
    Replaces element (change element) list (list.modify index change) := by
  rcases List.getElem?_eq_some_iff.mp hget with ⟨hindex, helement⟩
  refine ⟨list.take index, list.drop (index + 1), ?_, ?_⟩
  · rw [← helement, List.getElem_cons_drop, List.take_append_drop]
  · rw [List.modify_eq_take_cons_drop hindex, helement]

/-! ## The leaves after a change -/

section Leaves

variable {leaves : α → List β}

theorem flatMap_map_leaves
    {change : α → α} {leafChange : β → β}
    (hchange : ∀ node, leaves (change node) = (leaves node).map leafChange)
    (list : List α) :
    (list.map change).flatMap leaves =
      (list.flatMap leaves).map leafChange := by
  rw [List.flatMap_map, List.map_flatMap]
  simp only [hchange]

/-- A search for the first leaf with a property that walks node by node. -/
theorem flatMap_updateFirst_any
    {chosen : β → Bool} {change : α → α} {leafChange : β → β}
    (hchange : ∀ node, leaves (change node) =
      FirstMatch.updateFirst chosen leafChange (leaves node))
    (list : List α) :
    (FirstMatch.updateFirst (fun node => (leaves node).any chosen) change
        list).flatMap leaves =
      FirstMatch.updateFirst chosen leafChange (list.flatMap leaves) := by
  induction list with
  | nil => rfl
  | cons node rest ih =>
      rw [List.flatMap_cons, FirstMatch.updateFirst]
      cases hany : (leaves node).any chosen with
      | true =>
          rw [if_pos rfl, List.flatMap_cons, hchange,
            FirstMatch.updateFirst_append_of_any leafChange hany]
      | false =>
          rw [if_neg Bool.false_ne_true, List.flatMap_cons, ih,
            FirstMatch.updateFirst_append_of_not_any leafChange hany]

theorem forall_leaves_findOrAdd
    {property : β → Prop} {chosen : α → Bool} {found : α → α} {created : α}
    {list : List α} (hall : ∀ leaf ∈ list.flatMap leaves, property leaf)
    (hfound : ∀ node, (∀ leaf ∈ leaves node, property leaf) →
      ∀ leaf ∈ leaves (found node), property leaf)
    (hcreated : ∀ leaf ∈ leaves created, property leaf) :
    ∀ leaf ∈ (FirstMatch.findOrAdd chosen found created list).flatMap leaves,
      property leaf := by
  have hnode : ∀ node ∈ list, ∀ leaf ∈ leaves node, property leaf := by
    intro node hnode leaf hleaf
    exact hall leaf (List.mem_flatMap.mpr ⟨node, hnode, hleaf⟩)
  intro leaf hmem
  rcases List.mem_flatMap.mp hmem with ⟨node, hadded, hleaf⟩
  rcases FirstMatch.mem_findOrAdd hadded with
    hold | ⟨changed, hfind, heq⟩ | ⟨-, heq⟩
  · exact hnode node hold leaf hleaf
  · rw [heq] at hleaf
    exact hfound changed (hnode changed (List.mem_of_find?_eq_some hfind))
      leaf hleaf
  · rw [heq] at hleaf
    exact hcreated leaf hleaf

/-- A view of the leaves that the change keeps and that does not see the
leaves of the created node. -/
theorem flatMap_leaves_findOrAdd
    {view : β → List γ} {chosen : α → Bool} {found : α → α} {created : α}
    (hfound : ∀ node,
      (leaves (found node)).flatMap view = (leaves node).flatMap view)
    (hcreated : (leaves created).flatMap view = []) (list : List α) :
    ((FirstMatch.findOrAdd chosen found created list).flatMap
        leaves).flatMap view = (list.flatMap leaves).flatMap view := by
  rw [List.flatMap_assoc, List.flatMap_assoc]
  apply FirstMatch.flatMap_findOrAdd_of_same
  · exact hfound
  · exact hcreated

/-- The change of the node that holds the leaf with a number, the leaves
counted through all nodes. -/
def modifyLeaf (leaves : α → List β) (change : ℕ → α → α) :
    ℕ → List α → List α
  | _, [] => []
  | index, node :: rest =>
      if index < (leaves node).length then change index node :: rest
      else
        node :: modifyLeaf leaves change (index - (leaves node).length) rest

theorem replaces_modifyLeaf
    {change : ℕ → α → α} {leafChange : β → β}
    (hchange : ∀ index node leaf, (leaves node)[index]? = some leaf →
      Replaces leaf (leafChange leaf) (leaves node)
        (leaves (change index node)))
    {index : ℕ} {list : List α} {leaf : β}
    (hget : (list.flatMap leaves)[index]? = some leaf) :
    Replaces leaf (leafChange leaf) (list.flatMap leaves)
      ((modifyLeaf leaves change index list).flatMap leaves) := by
  induction list generalizing index with
  | nil => simp at hget
  | cons node rest ih =>
      rw [List.flatMap_cons] at hget
      unfold modifyLeaf
      split_ifs with hindex
      · rw [List.getElem?_append_left hindex] at hget
        have hnode : Replaces node (change index node) (node :: rest)
            (change index node :: rest) := ⟨[], rest, rfl, rfl⟩
        exact hnode.flatMap (hchange index node leaf hget)
      · rw [List.getElem?_append_right (not_lt.mp hindex)] at hget
        rcases ih hget with ⟨before, after, hlist, hchanged⟩
        refine ⟨leaves node ++ before, after, ?_, ?_⟩
        · rw [List.flatMap_cons, hlist, List.append_assoc]
        · rw [List.flatMap_cons, hchanged, List.append_assoc]

end Leaves

/-! ## Distinct names -/

section Names

variable {name : α → β} {below : α → Prop} {list : List α} {found : α → α}

/-- No two nodes of a list have one name, and below each node it is so. -/
def Apart (name : α → β) (below : α → Prop) (list : List α) : Prop :=
  (list.map name).Nodup ∧ ∀ node ∈ list, below node

/-- A name that is not found is not there as it would be stored either. -/
def NameFits (names : List β) (given stored : β) : Prop :=
  given ∉ names → stored ∉ names

theorem find?_name_eq_none_iff [DecidableEq β] {given : β} :
    list.find? (fun node => name node = given) = none ↔
      given ∉ list.map name := by
  rw [List.find?_eq_none, List.mem_map, not_exists]
  constructor
  · intro hnone node hnode
    exact hnone node hnode.1 (by simpa using hnode.2)
  · intro hnone node hmem heq
    exact hnone node ⟨hmem, by simpa using heq⟩

theorem map_findOrAdd_sublist {chosen : α → Bool} {created : α}
    (hname : ∀ node, name (found node) = name node) :
    (list.map name).Sublist
      ((FirstMatch.findOrAdd chosen found created list).map name) := by
  cases hfind : list.find? chosen with
  | none =>
      rw [FirstMatch.findOrAdd_of_none found created hfind, List.map_append]
      exact List.sublist_append_left _ _
  | some node =>
      rw [FirstMatch.findOrAdd_of_some found created hfind,
        FirstMatch.map_updateFirst_of_same chosen hname]

theorem forall_mem_updateFirst_iff {chosen : α → Bool} {change : α → α}
    (hbelow : ∀ node, below (change node) ↔ below node) (list : List α) :
    (∀ node ∈ FirstMatch.updateFirst chosen change list, below node) ↔
      ∀ node ∈ list, below node := by
  induction list with
  | nil => rfl
  | cons first rest ih =>
      unfold FirstMatch.updateFirst
      split_ifs with hchosen
      · rw [List.forall_mem_cons, List.forall_mem_cons, hbelow]
      · rw [List.forall_mem_cons, List.forall_mem_cons, ih]

theorem apart_updateFirst_iff {chosen : α → Bool} (change : α → α)
    (hname : ∀ node, name (change node) = name node)
    (hbelow : ∀ node, below (change node) ↔ below node) (list : List α) :
    Apart name below (FirstMatch.updateFirst chosen change list) ↔
      Apart name below list := by
  unfold Apart
  rw [FirstMatch.map_updateFirst_of_same chosen hname,
    forall_mem_updateFirst_iff hbelow]

/-- What a registration at one level does to the names. -/
theorem apart_findOrAdd_iff [DecidableEq β] (hapart : Apart name below list)
    (given : β) (hname : ∀ node, name (found node) = name node)
    (created : α) :
    Apart name below (FirstMatch.findOrAdd (fun node => name node = given)
        found created list) ↔
      NameFits (list.map name) given (name created) ∧
        below ((list.find? fun node => name node = given).elim created
          found) := by
  cases hfind : list.find? fun node => name node = given with
  | none =>
      have hgiven := find?_name_eq_none_iff.mp hfind
      rw [FirstMatch.findOrAdd_of_none found created hfind]
      simp only [Apart, NameFits, hgiven, not_false_eq_true, true_implies,
        Option.elim_none, List.map_append, List.map_cons, List.map_nil,
        List.nodup_append, hapart.1, List.nodup_singleton, true_and,
        List.mem_singleton, List.forall_mem_append]
      constructor
      · rintro ⟨hnew, -, hbelow⟩
        refine ⟨fun hmem => hnew _ hmem _ rfl rfl, hbelow _ rfl⟩
      · rintro ⟨hnew, hbelow⟩
        refine ⟨?_, hapart.2, ?_⟩
        · intro other hother last hlast heq
          rw [heq, hlast] at hother
          exact hnew hother
        · intro node hnode
          rw [hnode]
          exact hbelow
  | some first =>
      have hgiven : given ∈ list.map name := by
        by_contra hnot
        rw [← find?_name_eq_none_iff, hfind] at hnot
        cases hnot
      rw [FirstMatch.findOrAdd_of_some found created hfind, Option.elim_some]
      unfold Apart NameFits
      rw [FirstMatch.map_updateFirst_of_same _ hname]
      constructor
      · intro hadded
        exact ⟨fun hnot => absurd hgiven hnot, hadded.2 _
          (FirstMatch.change_mem_updateFirst found hfind)⟩
      · rintro ⟨-, hbelow⟩
        exact ⟨hapart.1,
          (replaces_updateFirst found hfind).forall_mem hapart.2 hbelow⟩

/-- The same for a level whose new node is the change of a fresh one, with the
condition of the level below. -/
theorem apart_findOrAdd_change_iff [DecidableEq β]
    (hapart : Apart name below list) (given : β)
    (hname : ∀ node, name (found node) = name node) {fits : α → Prop}
    (hfits : ∀ node, below node → (below (found node) ↔ fits node))
    {fresh : α} (hfresh : below fresh) :
    Apart name below (FirstMatch.findOrAdd (fun node => name node = given)
        found (found fresh) list) ↔
      NameFits (list.map name) given (name fresh) ∧
        fits ((list.find? fun node => name node = given).getD fresh) := by
  rw [apart_findOrAdd_iff hapart given hname, hname]
  cases hfind : list.find? fun node => name node = given with
  | none => rw [Option.elim_none, Option.getD_none, hfits fresh hfresh]
  | some node =>
      have hnode := hapart.2 node (List.mem_of_find?_eq_some hfind)
      rw [Option.elim_some, Option.getD_some, hfits node hnode]

theorem nameFits_self (names : List β) (given : β) :
    NameFits names given given := id

end Names

end NodeLists
