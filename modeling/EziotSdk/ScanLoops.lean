import Mathlib.Data.List.Basic
import Mathlib.Tactic

/-!
# Loops over indices

C code walks a list by counting an index up to a bound and fetching the item
at each index, skipping the iteration when there is none.  The rules below
turn such loops into recursion on the list.  A loop that stops at the first
item that fails is a `mapM` in `Except`.
-/

namespace ScanLoops

variable {α β : Type*}

/-- One iteration: fetch the item, or go on when the fetch fails. -/
def visit (body : β → α → β) (items : List α) (acc : β) (index : ℕ) : β :=
  match items[index]? with
  | none => acc
  | some item => body acc item

/-- A loop with any bound visits the items below the bound in order. -/
theorem foldl_range_visit
    (body : β → α → β) (items : List α) (bound : ℕ) (start : β) :
    (List.range bound).foldl (visit body items) start =
      (items.take bound).foldl body start := by
  induction bound with
  | zero => simp
  | succ bound ih =>
      rw [List.range_succ, List.foldl_append, ih, List.take_add_one,
        List.foldl_append]
      cases hitem : items[bound]? <;> simp [visit, hitem]

theorem foldl_range_visit_length
    (body : β → α → β) (items : List α) (start : β) :
    (List.range items.length).foldl (visit body items) start =
      items.foldl body start := by
  rw [foldl_range_visit, List.take_length]

/-! ## Loops that stop early -/

/-- A loop that leaves at the first item that is not ready serves, of the
ready and wanted items, a sublist. -/
theorem filter_takeWhile_sublist
    (ready wanted : α → Bool) (items : List α) :
    ((items.takeWhile ready).filter wanted).Sublist
      (items.filter fun item => ready item && wanted item) := by
  induction items with
  | nil => simp
  | cons item rest ih =>
      cases hready : ready item with
      | false => simp [hready]
      | true =>
          cases hwanted : wanted item with
          | false => simpa [hready, hwanted] using ih
          | true => simpa [hready, hwanted] using ih

/-- The loop serves all of them exactly if every item before a ready and
wanted one is ready. -/
theorem filter_takeWhile_eq_iff
    (ready wanted : α → Bool) (items : List α) :
    (items.takeWhile ready).filter wanted =
        (items.filter fun item => ready item && wanted item) ↔
      items.Pairwise fun earlier later =>
        wanted later = true → ready later = true → ready earlier = true := by
  induction items with
  | nil => simp
  | cons item rest ih =>
      cases hready : ready item with
      | true =>
          rw [List.pairwise_cons, ← ih]
          cases hwanted : wanted item <;> simp [hready, hwanted]
      | false =>
          have hstop : (item :: rest).takeWhile ready = [] := by
            simp [hready]
          rw [hstop, List.pairwise_cons]
          constructor
          · intro hnone
            have hrest : ∀ later ∈ rest,
                wanted later = true → ready later = true → False := by
              intro later hmem hwanted hlater
              have hserved : later ∈ (item :: rest).filter
                  fun item => ready item && wanted item := by
                simp [hmem, hlater, hwanted]
              rw [← hnone] at hserved
              simp at hserved
            constructor
            · intro later hmem hwanted hlater
              exact absurd hlater (hrest later hmem hwanted)
            · apply List.pairwise_of_forall_mem_list
              intro earlier _ later hmem hwanted hlater
              exact absurd hlater (hrest later hmem hwanted)
          · intro hpair
            symm
            rw [List.filter_nil, List.filter_eq_nil_iff]
            intro later hmem hboth
            rw [Bool.and_eq_true] at hboth
            rcases List.mem_cons.mp hmem with rfl | hrest
            · simp [hready] at hboth
            · have hitem := hpair.1 later hrest hboth.2 hboth.1
              simp [hready] at hitem

/-! ## Loops that stop at a failure -/

variable {ε : Type*}

theorem mapM_cons_ok
    (step : α → Except ε β) {item : α} {result : β} {rest : List α}
    (hitem : step item = .ok result) :
    (item :: rest).mapM step =
      (rest.mapM step).map fun results => result :: results := by
  rw [List.mapM_cons, hitem]
  cases rest.mapM step <;> rfl

theorem mapM_cons_error
    (step : α → Except ε β) {item : α} {failure : ε} {rest : List α}
    (hitem : step item = .error failure) :
    (item :: rest).mapM step = .error failure := by
  rw [List.mapM_cons, hitem]
  rfl

/-- A loop that ends has a result for each item, in order. -/
theorem mapM_eq_ok_iff
    (step : α → Except ε β) (items : List α) (results : List β) :
    items.mapM step = .ok results ↔
      List.Forall₂ (fun item result => step item = .ok result) items
        results := by
  induction items generalizing results with
  | nil =>
      rw [List.mapM_nil, List.forall₂_nil_left_iff]
      constructor
      · intro hresults
        exact (Except.ok.inj hresults).symm
      · rintro rfl
        rfl
  | cons item rest ih =>
      cases hitem : step item with
      | error failure =>
          rw [mapM_cons_error step hitem]
          constructor
          · intro hresults
            cases hresults
          · intro hall
            cases hall with
            | cons hhead _ =>
                rw [hitem] at hhead
                cases hhead
      | ok result =>
          rw [mapM_cons_ok step hitem]
          cases hrest : rest.mapM step with
          | error failure =>
              constructor
              · intro hresults
                cases hresults
              · intro hall
                cases hall with
                | cons _ htail =>
                    rw [← ih, hrest] at htail
                    cases htail
          | ok tail =>
              constructor
              · intro hresults
                have heq := Except.ok.inj hresults
                subst heq
                exact .cons hitem ((ih tail).mp hrest)
              · intro hall
                cases hall with
                | cons hhead htail =>
                    rw [hitem] at hhead
                    rw [← ih, hrest] at htail
                    cases hhead
                    cases htail
                    rfl

/-- A loop fails with the failure of an item before which no item fails. -/
theorem mapM_eq_error_iff
    (step : α → Except ε β) (items : List α) (failure : ε) :
    items.mapM step = .error failure ↔
      ∃ before item after, items = before ++ item :: after ∧
        (∀ other ∈ before, ∃ result, step other = .ok result) ∧
        step item = .error failure := by
  induction items with
  | nil =>
      constructor
      · intro hfailed
        cases hfailed
      · rintro ⟨before, item, after, hsplit, -⟩
        simp at hsplit
  | cons first rest ih =>
      cases hfirst : step first with
      | error cause =>
          rw [mapM_cons_error step hfirst]
          constructor
          · intro hfailed
            have heq := Except.error.inj hfailed
            subst heq
            exact ⟨[], first, rest, rfl, by simp, hfirst⟩
          · rintro ⟨before, item, after, hsplit, hbefore, hitem⟩
            cases before with
            | nil =>
                cases hsplit
                rw [hfirst] at hitem
                rw [Except.error.inj hitem]
            | cons other before =>
                cases hsplit
                obtain ⟨result, hresult⟩ := hbefore first (by simp)
                rw [hfirst] at hresult
                cases hresult
      | ok result =>
          rw [mapM_cons_ok step hfirst]
          have hmap :
              (rest.mapM step).map (fun results => result :: results) =
                  .error failure ↔ rest.mapM step = .error failure := by
            cases rest.mapM step <;> simp [Except.map]
          rw [hmap, ih]
          constructor
          · rintro ⟨before, item, after, rfl, hbefore, hitem⟩
            refine ⟨first :: before, item, after, rfl, ?_, hitem⟩
            intro other hmem
            rcases List.mem_cons.mp hmem with rfl | hmem
            · exact ⟨result, hfirst⟩
            · exact hbefore other hmem
          · rintro ⟨before, item, after, hsplit, hbefore, hitem⟩
            cases before with
            | nil =>
                cases hsplit
                rw [hfirst] at hitem
                cases hitem
            | cons other before =>
                cases hsplit
                refine ⟨before, item, after, rfl, ?_, hitem⟩
                exact fun other hmem =>
                  hbefore other (List.mem_cons_of_mem first hmem)

/-- What relates the items to the results of a loop that ends is a condition
on each item, when it is one for each step. -/
theorem forall₂_iff_of_mapM
    {step : α → Except ε β}
    (related : α → β → Prop) (condition : α → Prop)
    (hstep : ∀ item result, step item = .ok result →
      (related item result ↔ condition item))
    {items : List α} {results : List β}
    (hresults : items.mapM step = .ok results) :
    List.Forall₂ related items results ↔ ∀ item ∈ items, condition item := by
  rw [mapM_eq_ok_iff] at hresults
  induction hresults with
  | nil => simp
  | cons hitem _ ih =>
      rw [List.forall₂_cons, ih, List.forall_mem_cons, hstep _ _ hitem]

theorem forall₂_zipIdx_iff
    (related : α → β → Prop) (items : List α) (results : List β) :
    List.Forall₂ (fun item result => related item.1 result) items.zipIdx
        results ↔
      List.Forall₂ related items results := by
  have hmap := List.forall₂_map_left_iff (R := related) (f := Prod.fst)
    (l := items.zipIdx) (u := results)
  rw [← hmap, List.zipIdx_map_fst]

end ScanLoops
