import Mathlib.Data.List.Basic
import Mathlib.Data.List.Nodup
import Mathlib.Logic.Function.Basic

/-!
# Singly linked lists of nodes

A list is the address of its first node, and each node has the address of the
next one.  Looking for the end of a list takes a bound on the number of steps,
since the addresses may run in a circle.
-/

namespace NodeChain

/-- What follows each node. -/
abbrev Links := ℕ → Option ℕ

def lastFrom (next : Links) : ℕ → ℕ → Option ℕ
  | 0, _ => none
  | fuel + 1, node =>
      match next node with
      | none => some node
      | some later => lastFrom next fuel later

def visited (next : Links) : ℕ → Option ℕ → Option (List ℕ)
  | _, none => some []
  | 0, some _ => none
  | fuel + 1, some node =>
      (visited next fuel (next node)).map fun later => node :: later

/-- A node at the end of a list. -/
def append (fuel : ℕ) (next : Links) (first : Option ℕ) (node : ℕ) :
    Option (Links × Option ℕ) :=
  match first with
  | none => some (next, some node)
  | some start =>
      (lastFrom next fuel start).map fun last =>
        (Function.update next last (some node), some start)

/-- The nodes of a list that ends. -/
def Chain (next : Links) : Option ℕ → List ℕ → Prop
  | first, [] => first = none
  | first, node :: rest => first = some node ∧ Chain next (next node) rest

variable {next : Links} {first : Option ℕ} {nodes : List ℕ}

theorem visited_of_chain (hchain : Chain next first nodes) {fuel : ℕ}
    (hfuel : nodes.length ≤ fuel) : visited next fuel first = some nodes := by
  induction nodes generalizing first fuel with
  | nil =>
      rw [Chain] at hchain
      rw [hchain, visited]
  | cons node rest ih =>
      rcases hchain with ⟨rfl, hrest⟩
      cases fuel with
      | zero => cases hfuel
      | succ fuel =>
          rw [visited, ih hrest (Nat.le_of_succ_le_succ hfuel), Option.map_some]

/-- A node that follows itself is never left. -/
theorem visited_of_self {node : ℕ} (hself : next node = some node)
    (fuel : ℕ) : visited next fuel (some node) = none := by
  induction fuel with
  | zero => rfl
  | succ fuel ih => rw [visited, hself, ih, Option.map_none]

theorem lastFrom_of_self {node : ℕ} (hself : next node = some node)
    (fuel : ℕ) : lastFrom next fuel node = none := by
  induction fuel with
  | zero => rfl
  | succ fuel ih =>
      rw [lastFrom, hself]
      exact ih

theorem lastFrom_of_chain {start last : ℕ} {before : List ℕ}
    (hchain : Chain next (some start) (before ++ [last])) {fuel : ℕ}
    (hfuel : before.length < fuel) : lastFrom next fuel start = some last := by
  induction before generalizing start fuel with
  | nil =>
      rcases hchain with ⟨hstart, hend⟩
      rw [Option.some.injEq] at hstart
      rw [Chain] at hend
      cases fuel with
      | zero => cases hfuel
      | succ fuel => simp only [lastFrom, hstart, hend]
  | cons node rest ih =>
      rcases hchain with ⟨hstart, hrest⟩
      rw [Option.some.injEq] at hstart
      rw [← hstart] at hrest
      cases fuel with
      | zero => cases hfuel
      | succ fuel =>
          cases hnext : next start with
          | none =>
              rw [hnext] at hrest
              cases rest with
              | nil => cases hrest.1
              | cons other later => cases hrest.1
          | some later =>
              rw [hnext] at hrest
              rw [lastFrom, hnext]
              exact ih hrest (Nat.lt_of_succ_lt_succ hfuel)

/-- The end is found, if it is found at all, at the last node. -/
theorem lastFrom_eq_some {start last : ℕ}
    (hchain : Chain next (some start) nodes) {fuel : ℕ}
    (hlast : lastFrom next fuel start = some last) :
    ∃ before, nodes = before ++ [last] := by
  induction nodes generalizing start fuel with
  | nil => cases hchain
  | cons node rest ih =>
      rcases hchain with ⟨hstart, hrest⟩
      rw [Option.some.injEq] at hstart
      cases fuel with
      | zero => cases hlast
      | succ fuel =>
          rw [lastFrom] at hlast
          rw [← hstart] at hrest
          cases hnext : next start with
          | none =>
              rw [hnext] at hlast hrest
              cases rest with
              | nil => exact ⟨[], by rw [← hstart, Option.some.inj hlast]; rfl⟩
              | cons other later => cases hrest.1
          | some later =>
              rw [hnext] at hlast hrest
              rcases ih hrest hlast with ⟨before, hbefore⟩
              exact ⟨node :: before, by rw [hbefore]; rfl⟩

/-- Only the links of the nodes of a list matter to it. -/
theorem Chain.congr {other : Links} (hchain : Chain next first nodes)
    (hsame : ∀ node ∈ nodes, other node = next node) :
    Chain other first nodes := by
  induction nodes generalizing first with
  | nil => exact hchain
  | cons node rest ih =>
      rcases hchain with ⟨hfirst, hrest⟩
      refine ⟨hfirst, ?_⟩
      rw [hsame node List.mem_cons_self]
      exact ih hrest fun later hlater =>
        hsame later (List.mem_cons_of_mem _ hlater)

theorem Chain.extend {before : List ℕ} {last node : ℕ}
    (hchain : Chain next first (before ++ [last]))
    (hnodup : (before ++ [last]).Nodup) (hnew : node ∉ before ++ [last])
    (hend : next node = none) :
    Chain (Function.update next last (some node)) first
      (before ++ [last] ++ [node]) := by
  induction before generalizing first with
  | nil =>
      rcases hchain with ⟨hfirst, -⟩
      have hother : node ≠ last := by
        intro hsame
        exact hnew (by simp [hsame])
      refine ⟨hfirst, ?_⟩
      rw [Function.update_self]
      refine ⟨rfl, ?_⟩
      rw [Chain, Function.update_of_ne hother, hend]
  | cons start rest ih =>
      rcases hchain with ⟨hfirst, hrest⟩
      rw [List.cons_append, List.nodup_cons] at hnodup
      rw [List.cons_append, List.mem_cons, not_or] at hnew
      have hother : start ≠ last := by
        intro hsame
        exact hnodup.1 (by simp [hsame])
      refine ⟨hfirst, ?_⟩
      rw [Function.update_of_ne hother]
      exact ih hrest hnodup.2 hnew.2

/-- A new node at the end of a list, and all other links kept. -/
theorem Chain.append {node : ℕ} (hchain : Chain next first nodes)
    (hnodup : nodes.Nodup) (hnew : node ∉ nodes) (hend : next node = none)
    {fuel : ℕ} {links : Links} {start : Option ℕ}
    (happend : append fuel next first node = some (links, start)) :
    Chain links start (nodes ++ [node]) ∧
      ∀ other, other ∉ nodes → links other = next other := by
  cases first with
  | none =>
      rw [NodeChain.append, Option.some.injEq, Prod.mk.injEq] at happend
      rcases happend with ⟨rfl, rfl⟩
      cases nodes with
      | nil => exact ⟨⟨rfl, hend⟩, fun _ _ => rfl⟩
      | cons other rest => cases hchain.1
  | some own =>
      rw [NodeChain.append, Option.map_eq_some_iff] at happend
      rcases happend with ⟨last, hlast, hpair⟩
      rw [Prod.mk.injEq] at hpair
      rcases hpair with ⟨rfl, rfl⟩
      rcases lastFrom_eq_some hchain hlast with ⟨before, rfl⟩
      refine ⟨hchain.extend hnodup hnew hend, ?_⟩
      intro other hother
      apply Function.update_of_ne
      rintro rfl
      exact hother (by simp)

theorem Chain.append_isSome (hchain : Chain next first nodes) (node : ℕ)
    {fuel : ℕ} (hfuel : nodes.length ≤ fuel) :
    ∃ result, NodeChain.append fuel next first node = some result := by
  cases first with
  | none => exact ⟨_, rfl⟩
  | some start =>
      rcases List.eq_nil_or_concat nodes with rfl | ⟨before, last, hnodes⟩
      · cases hchain
      · rw [hnodes, List.concat_eq_append] at hchain
        rw [hnodes, List.concat_eq_append, List.length_append] at hfuel
        rw [NodeChain.append, lastFrom_of_chain hchain hfuel]
        exact ⟨_, rfl⟩

/-- The last node once more. -/
theorem append_only {node fuel : ℕ} {links : Links} {start : Option ℕ}
    (hend : next node = none)
    (happend : append fuel next (some node) node = some (links, start)) :
    links = Function.update next node (some node) ∧ start = some node := by
  rw [append, Option.map_eq_some_iff] at happend
  rcases happend with ⟨last, hlast, hpair⟩
  rw [Prod.mk.injEq] at hpair
  have hchain : Chain next (some node) [node] := ⟨rfl, hend⟩
  rcases lastFrom_eq_some hchain hlast with ⟨before, hbefore⟩
  have hsame : node = last := by
    have hmem : last ∈ [node] := by simp [hbefore]
    exact (List.mem_singleton.mp hmem).symm
  rw [← hsame] at hpair
  exact ⟨hpair.1.symm, hpair.2.symm⟩

theorem append_of_self {node : ℕ} (hself : next node = some node)
    (fuel : ℕ) : append fuel next (some node) node = none := by
  rw [append, lastFrom_of_self hself, Option.map_none]

end NodeChain
