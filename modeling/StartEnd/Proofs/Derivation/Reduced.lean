import Mathlib.Tactic.Choose
import StartEnd.Proofs.Derivation.Value

/-!
This module contains the induction over the nodes that reductions make of a derivation: what holds
of the tokens of a derivation and is preserved by every reduction holds of the node of the whole.
-/

namespace StartEnd.Tree

theorem yield_subset {r : Rule} {children : List Tree} {T : Tree} (h : T ∈ children) :
    T.yield ⊆ Tree.yield (.node r children) := by
  intro t ht
  rw [yield_node]
  exact List.mem_flatMap.mpr ⟨T, h, ht⟩

variable {P : Tree → Node → Prop} {T : Tree}

theorem Valid.exists_reduced
    (reduce : ∀ r children (found : Tree → Node) n, children.map symbol = r.rhs →
      (∀ C ∈ children, P C (found C)) → r.reduce (children.map found) = .ok n →
        P (.node r children) n)
    (h : T.Valid) (tokens : ∀ t ∈ T.yield, t.wellFormed ∧ P (.leaf t) (.token t)) :
    ∃ n, T.StandsFor n ∧ P T n := by
  induction h with
  | @leaf t _ =>
    obtain ⟨hwellFormed, ht⟩ := tokens t (by simp)
    exact ⟨.token t, standsFor_leaf hwellFormed, ht⟩
  | @node r children symbols _ ih =>
    have hchildren : ∀ C ∈ children, ∃ n, C.StandsFor n ∧ P C n := fun C hC =>
      ih C hC fun t ht => tokens t (yield_subset hC ht)
    have : Nonempty Node := ⟨.absent⟩
    choose! found hstands hfound using hchildren
    have hstands : List.Forall₂ StandsFor (children.map found) children := by
      rwa [List.forall₂_map_left_iff, List.forall₂_same]
    obtain ⟨n, hreduce, hn⟩ := r.reduces _ children (symbols ▸ children_of_forall₂ hstands)
    exact ⟨n, hn, reduce r children found n symbols hfound hreduce⟩

/--
What every reduction preserves holds of the program that is read off a derivation.
-/
theorem Valid.of_program?
    (reduce : ∀ r children (found : Tree → Node) n, children.map symbol = r.rhs →
      (∀ C ∈ children, P C (found C)) → r.reduce (children.map found) = .ok n →
        P (.node r children) n)
    (h : T.Valid) (tokens : ∀ t ∈ T.yield, t.wellFormed ∧ P (.leaf t) (.token t))
    (hs : T.symbol = .program) {p : Program} (hp : T.program? = some p) : P T (.program p) := by
  obtain ⟨n, hn, hP⟩ := h.exists_reduced reduce tokens
  simp only [StandsFor, hs, hp] at hn
  obtain ⟨q, hq, rfl⟩ := hn
  rwa [Option.some.inj hq]

end StartEnd.Tree
