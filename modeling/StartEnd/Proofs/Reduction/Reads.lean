import StartEnd.Reduction.Basic

/-!
This module contains what a reduction that succeeds has done: it has read its children as the shapes
of the rule, and it has made its node from what they contain.
-/

namespace StartEnd

namespace Shape

/--
Nodes that have the given contents, each of them in one of the shapes.
-/
inductive Reads : (shapes : List Shape) → List Node → Contents shapes → Prop where
  | nil : Reads [] [] ()
  | cons {shape : Shape} {n : Node} {content : shape.Content} {shapes : List Shape}
      {nodes : List Node} {contents : Contents shapes} (h : shape.read? n = some content)
      (rest : Reads shapes nodes contents) :
    Reads (shape :: shapes) (n :: nodes) (content, contents)

end Shape

namespace Rule

open StartEnd.Shape

theorem length_shapes (r : Rule) : r.shapes.length = r.arity := by
  cases r <;> rfl

theorem reads_of_readChildren {r : Rule} {shapes : List Shape} {position : Nat} {nodes : List Node}
    {contents : Contents shapes} (h : r.readChildren shapes position nodes = .ok contents)
    (hlength : nodes.length = shapes.length) : Reads shapes nodes contents := by
  induction shapes generalizing position nodes with
  | nil =>
    obtain rfl := List.eq_nil_of_length_eq_zero hlength
    exact .nil
  | cons shape shapes ih =>
    cases nodes with
    | nil => cases h
    | cons n nodes =>
      simp only [readChildren] at h
      split at h
      · cases h
      · next content hcontent =>
        split at h
        · cases h
        · next rest hrest =>
          obtain rfl := Except.ok.inj h
          exact .cons hcontent (ih hrest (Nat.succ.inj hlength))

theorem exists_reads {r : Rule} {nodes : List Node} {n : Node} (h : r.reduce nodes = .ok n) :
    ∃ contents, Reads r.shapes nodes contents ∧ r.value contents = n := by
  unfold reduce at h
  split at h
  · next hlength =>
    cases hread : r.readChildren r.shapes 0 nodes with
    | error e => simp [hread, Except.map] at h
    | ok contents =>
      rw [← length_shapes] at hlength
      exact ⟨contents, reads_of_readChildren hread hlength, by simpa [hread, Except.map] using h⟩
  · cases h

end Rule

end StartEnd
