import EziotSdk.NodeLists

/-!
# Walks that a result may stop

Nested loops over a tree of fixed depth visit the leaves in order, and some
result leaves all the loops at once.  The walk over the tree is the walk over
the list of its leaves, and a place of that list is reached when no earlier
leaf stops the walk.
-/

namespace NodeLists

variable {α β ρ : Type*}

/-- The innermost loop; a visit is told how many leaves come before. -/
def walkLeaves (stops : ρ → Bool) (visit : ℕ → β → ρ × β) :
    ℕ → List β → List ρ × List β
  | _, [] => ([], [])
  | before, leaf :: rest =>
      let visited := visit before leaf
      if stops visited.1 then ([visited.1], visited.2 :: rest)
      else
        let more := walkLeaves stops visit (before + 1) rest
        (visited.1 :: more.1, visited.2 :: more.2)

/-- An outer loop, over nodes with the given numbers of leaves. -/
def walk (stops : ρ → Bool) (size : α → ℕ) (visit : ℕ → α → List ρ × α) :
    ℕ → List α → List ρ × List α
  | _, [] => ([], [])
  | before, node :: rest =>
      let visited := visit before node
      if visited.1.any stops then (visited.1, visited.2 :: rest)
      else
        let more := walk stops size visit (before + size node) rest
        (visited.1 ++ more.1, visited.2 :: more.2)

section Leaves

variable (stops : ρ → Bool) (visit : ℕ → β → ρ × β)

theorem walkLeaves_append (before : ℕ) (first rest : List β) :
    walkLeaves stops visit before (first ++ rest) =
      let walked := walkLeaves stops visit before first
      if walked.1.any stops then (walked.1, walked.2 ++ rest)
      else
        let more := walkLeaves stops visit (before + first.length) rest
        (walked.1 ++ more.1, walked.2 ++ more.2) := by
  induction first generalizing before with
  | nil => simp [walkLeaves]
  | cons leaf others ih =>
      rw [List.cons_append, walkLeaves, walkLeaves]
      by_cases hstop : stops (visit before leaf).1 = true
      · simp [hstop]
      · simp only [hstop, Bool.false_eq_true, if_false, ih,
          List.any_cons, Bool.false_or, List.length_cons]
        have hlength : before + 1 + others.length =
            before + (others.length + 1) := by
          omega
        rw [hlength]
        split_ifs <;> rfl

/-- No earlier leaf stops the walk. -/
def Reached (before : ℕ) (leaves : List β) (place : ℕ) : Prop :=
  ∀ earlier < place, ∀ leaf, leaves[earlier]? = some leaf →
    stops (visit (before + earlier) leaf).1 = false

theorem reached_cons_succ_iff (before : ℕ) (first : β) (rest : List β)
    (place : ℕ) :
    Reached stops visit before (first :: rest) (place + 1) ↔
      stops (visit before first).1 = false ∧
        Reached stops visit (before + 1) rest place := by
  constructor
  · intro hreached
    constructor
    · exact hreached 0 (Nat.succ_pos place) first rfl
    · intro earlier hlt leaf hleaf
      have hearlier := hreached (earlier + 1) (Nat.succ_lt_succ hlt) leaf
        hleaf
      rw [show before + 1 + earlier = before + (earlier + 1) by omega]
      exact hearlier
  · rintro ⟨hfirst, hrest⟩ earlier hlt leaf hleaf
    cases earlier with
    | zero =>
        rw [List.getElem?_cons_zero, Option.some.injEq] at hleaf
        subst hleaf
        exact hfirst
    | succ earlier =>
        have hearlier := hrest earlier (Nat.lt_of_succ_lt_succ hlt) leaf
          hleaf
        rw [show before + 1 + earlier = before + (earlier + 1) by omega]
          at hearlier
        exact hearlier

theorem walkLeaves_of_reached {before place : ℕ} {leaves : List β}
    {leaf : β} (hleaf : leaves[place]? = some leaf)
    (hreached : Reached stops visit before leaves place) :
    (walkLeaves stops visit before leaves).2[place]? =
      some (visit (before + place) leaf).2 := by
  induction leaves generalizing before place with
  | nil => cases hleaf
  | cons first rest ih =>
      unfold walkLeaves
      cases place with
      | zero =>
          rw [List.getElem?_cons_zero, Option.some.injEq] at hleaf
          subst hleaf
          dsimp only
          split_ifs <;> rfl
      | succ place =>
          rw [reached_cons_succ_iff] at hreached
          rw [if_neg (by rw [hreached.1]; exact Bool.false_ne_true)]
          have hrest := ih hleaf hreached.2
          rw [show before + 1 + place = before + (place + 1) by omega]
            at hrest
          exact hrest

theorem walkLeaves_of_not_reached {before place : ℕ} {leaves : List β}
    (hnot : ¬ Reached stops visit before leaves place) :
    (walkLeaves stops visit before leaves).2[place]? = leaves[place]? := by
  induction leaves generalizing before place with
  | nil => rfl
  | cons first rest ih =>
      unfold walkLeaves
      cases place with
      | zero =>
          exfalso
          apply hnot
          intro earlier hlt
          omega
      | succ place =>
          by_cases hstop : stops (visit before first).1 = true
          · rw [if_pos hstop]
            rfl
          · rw [if_neg hstop]
            apply ih
            intro hreached
            apply hnot
            rw [reached_cons_succ_iff]
            exact ⟨Bool.eq_false_of_not_eq_true hstop, hreached⟩

end Leaves

/-- The walk over the nodes is the walk over their leaves. -/
theorem walk_flatMap {stops : ρ → Bool} {leafVisit : ℕ → β → ρ × β}
    {visit : ℕ → α → List ρ × α} {leaves : α → List β}
    (hvisit : ∀ before node,
      ((visit before node).1, leaves (visit before node).2) =
        walkLeaves stops leafVisit before (leaves node))
    (before : ℕ) (nodes : List α) :
    ((walk stops (fun node => (leaves node).length) visit before nodes).1,
        (walk stops (fun node => (leaves node).length) visit before
          nodes).2.flatMap leaves) =
      walkLeaves stops leafVisit before (nodes.flatMap leaves) := by
  induction nodes generalizing before with
  | nil => rfl
  | cons node rest ih =>
      have hnode := hvisit before node
      rw [List.flatMap_cons, walkLeaves_append, ← hnode, walk]
      dsimp only
      split_ifs
      · rfl
      · rw [← ih]
        rfl

end NodeLists
