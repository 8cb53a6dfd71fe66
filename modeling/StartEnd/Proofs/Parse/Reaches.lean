import StartEnd.Proofs.Parse.Step

/-!
This module contains reachability between the stages of a parse: what steps make of goals, trees and
tokens, whatever terminals have been refused before, provided that no token is faulty.
-/

namespace StartEnd

/--
A state of a parse without the terminals that have been refused.
-/
structure Stage where
  goals : List Goal
  forest : Forest
  rest : List Token

/--
If no token is faulty, then steps lead from one stage to another.
-/
def Reaches (g : Grammar) (a b : Stage) : Prop :=
  (∀ t ∈ a.rest, t.fault? = none) →
    ∀ refused, ∃ moves refused',
      Steps g ⟨a.goals, refused, a.forest, a.rest⟩ moves ⟨b.goals, refused', b.forest, b.rest⟩

variable {g : Grammar}

theorem Steps.rest_suffix {c d : Config} {moves : List Move} (h : Steps g c moves d) :
    d.rest <:+ c.rest := by
  induction h with
  | refl => exact List.suffix_rfl
  | head h _ ih =>
    apply ih.trans
    cases h with
    | reduce => exact List.suffix_rfl
    | met => exact List.suffix_rfl
    | shift => exact List.suffix_cons ..

theorem Steps.append_rest {c d : Config} {moves : List Move} (h : Steps g c moves d)
    (more : List Token) :
    Steps g { c with rest := c.rest ++ more } moves { d with rest := d.rest ++ more } := by
  induction h with
  | refl => exact .refl _
  | head h _ ih =>
    refine .head ?_ ih
    cases h with
    | reduce clean => exact .reduce clean
    | met clean ha hr => exact .met clean ha hr
    | shift clean ha => exact .shift clean ha

namespace Reaches

variable {a b c : Stage} {goals first : List Goal} {forest : Forest} {t : Token} {ts : List Token}

theorem trans (h : Reaches g a b) (h' : Reaches g b c) : Reaches g a c := by
  intro clean refused
  obtain ⟨moves, refused, hs⟩ := h clean refused
  obtain ⟨moves', refused', hs'⟩ := h' (fun t ht => clean t (hs.rest_suffix.mem ht)) refused
  exact ⟨_, _, hs.trans hs'⟩

theorem shift {goal : Goal} (ha : goal.answer g t.symbol = .shift first) :
    Reaches g ⟨goal :: goals, forest, t :: ts⟩ ⟨first ++ goals, .leaf t :: forest, ts⟩ := by
  intro clean refused
  exact ⟨_, _, .single (.shift (clean t (by simp)) ha)⟩

theorem met {goal : Goal} {rules : List Rule} {unmet : List Symbol}
    (ha : goal.answer g t.symbol = .met rules unmet) :
    Reaches g ⟨goal :: goals, forest, t :: ts⟩
      ⟨goals, rules.foldl Forest.reduce forest, t :: ts⟩ := by
  intro clean refused
  exact ⟨_, _, .met (clean t (by simp)) ha ..⟩

theorem reduce (r : Rule) (trees : List Tree) (h : r.rhs.length = trees.length) :
    Reaches g ⟨.reduce r :: goals, trees.reverse ++ forest, t :: ts⟩
      ⟨goals, .node r trees :: forest, t :: ts⟩ := by
  have hreduce : Forest.reduce (trees.reverse ++ forest) r = .node r trees :: forest := by
    simp [Forest.reduce, Rule.arity, h]
  intro clean refused
  rw [← hreduce]
  exact ⟨_, _, .single (.reduce (clean t (by simp)))⟩

theorem take {s : Symbol} (hs : t.symbol = s) (hne : s ≠ .eof) :
    Reaches g ⟨.take s :: goals, forest, t :: ts⟩ ⟨goals, .leaf t :: forest, ts⟩ := by
  have ha : (Goal.take s).answer g t.symbol = .shift [] := by simp [Goal.answer, hs, hne]
  apply shift ha

end Reaches

end StartEnd
