import StartEnd.Diagnostic.Basic
import StartEnd.Parse.Goal

/-!
This module contains the moves of a parse. Each token in turn is the lookahead: the goals that can
do without it are met by reductions, and the first goal that cannot takes it or stops the parse.
The parse never returns to a token that it has taken.
-/

namespace StartEnd

/--
A move of a parse. A reduction remembers the place of the lookahead.
-/
inductive Move where
  | shift (t : Token)
  | reduce (r : Rule) (lookahead : Location)

/--
How a parse ends, at which place.
-/
inductive Ending where
  | accept (lookahead : Location)
  | halt (d : Diagnostic)

/--
The moves of a parse and its ending.
-/
structure Run where
  moves : List Move
  ending : Ending

/--
What a list of goals makes of a lookahead once the goals that do without it are met.
-/
inductive Verdict where
  | shift (goals : List Goal)
  | refuse (expected : List Symbol)
  | tooDeep
  | accept

namespace Run

/--
The rules that the goals reduce in front of a lookahead, and what they make of it then. The
terminals that the goals would have accepted so far are given.
-/
def settle (g : Grammar) (s : Symbol) : List Goal → List Symbol → List Rule × Verdict
  | [], _ => ([], .accept)
  | goal :: goals, accepted =>
    match goal.answer g s with
    | .met rules unmet =>
      let settled := settle g s goals (accepted ++ unmet)
      (rules ++ settled.1, settled.2)
    | .shift first => ([], .shift (first ++ goals))
    | .refuse unmet => ([], .refuse (accepted ++ unmet))
    | .tooDeep => ([], .tooDeep)

/--
The moves in front of a token, and the goals behind it or the ending of the parse. A token that must
not reach the grammar stops the parse before any goal answers it.
-/
def meet (g : Grammar) (maxDepth : Nat) (goals : List Goal) (t : Token) :
    List Move × (List Goal ⊕ Ending) :=
  match t.fault? with
  | some complaint => ([], .inr (.halt (.badToken t complaint)))
  | none =>
    let settled := settle g t.symbol goals []
    let moves := settled.1.map (.reduce · t.location)
    match settled.2 with
    | .shift goals => (moves, .inl goals)
    | .refuse expected => (moves, .inr (.halt (.unexpected t expected)))
    | .tooDeep => (moves, .inr (.halt (.tooDeep maxDepth t)))
    | .accept => (moves, .inr (.accept t.location))

/--
Does the goals on a list of tokens, behind a token at the given place. A list without an
end-of-input token is read as if one stood behind it; since no goal takes such a token, the parse
ends there.
-/
def ofGoals (g : Grammar) (maxDepth : Nat) : List Goal → Location → List Token → Run
  | goals, last, [] =>
    match meet g maxDepth goals (.eof last) with
    | (moves, .inr ending) => ⟨moves, ending⟩
    | (moves, .inl _) => ⟨moves, .halt (.unexpected (.eof last) [])⟩
  | goals, _, t :: ts =>
    match meet g maxDepth goals t with
    | (moves, .inr ending) => ⟨moves, ending⟩
    | (moves, .inl goals) =>
      let rest := ofGoals g maxDepth goals t.location ts
      ⟨moves ++ .shift t :: rest.moves, rest.ending⟩

/--
The parse of a program whose constructs may be nested up to the given depth.
-/
def ofTokens (g : Grammar) (maxDepth : Nat) (tokens : List Token) : Run :=
  ofGoals g maxDepth (Goal.program maxDepth) .start tokens

end Run

end StartEnd
