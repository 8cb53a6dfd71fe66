import StartEnd.Parse.Run
import StartEnd.Proofs.Derivation.Tree

/-!
This module contains the single steps of a parse, each of which is about one goal: the first goal
reduces, it is met by reductions, or it takes the lookahead. Along with the moves, the steps build
the trees that the moves stand for. The run of a list of tokens makes the moves of these steps, and
it ends where no step is possible.
-/

namespace StartEnd

/--
The token that a move takes.
-/
def Move.token? : Move → Option Token
  | .shift t => some t
  | .reduce _ _ => none

/--
Trees that stand next to each other, the latest one first.
-/
abbrev Forest := List Tree

/--
Joins the latest trees by a rule.
-/
def Forest.reduce (forest : Forest) (r : Rule) : Forest :=
  .node r (forest.take r.arity).reverse :: forest.drop r.arity

/--
A state of a parse: the goals that remain, the terminals that goals would have accepted since the
last shift, the trees that have been built, and the tokens that have not been taken.
-/
structure Config where
  goals : List Goal
  refused : List Symbol
  forest : Forest
  rest : List Token

/--
The steps of a parse with their moves.
-/
inductive Step (g : Grammar) : Config → List Move → Config → Prop where
  | reduce {r goals refused forest t ts} (clean : t.fault? = none) :
    Step g ⟨.reduce r :: goals, refused, forest, t :: ts⟩ [.reduce r t.location]
      ⟨goals, refused, forest.reduce r, t :: ts⟩
  | met {goal goals refused forest t ts rules unmet} (clean : t.fault? = none)
      (h : goal.answer g t.symbol = .met rules unmet) (hr : ∀ r, goal ≠ .reduce r) :
    Step g ⟨goal :: goals, refused, forest, t :: ts⟩ []
      ⟨rules.map .reduce ++ goals, refused ++ unmet, forest, t :: ts⟩
  | shift {goal goals refused forest t ts first} (clean : t.fault? = none)
      (h : goal.answer g t.symbol = .shift first) :
    Step g ⟨goal :: goals, refused, forest, t :: ts⟩ [.shift t]
      ⟨first ++ goals, [], .leaf t :: forest, ts⟩

/--
Any number of steps with the moves of all of them.
-/
inductive Steps (g : Grammar) : Config → List Move → Config → Prop where
  | refl (c : Config) : Steps g c [] c
  | head {c d e : Config} {first rest : List Move} (h : Step g c first d) (hs : Steps g d rest e) :
    Steps g c (first ++ rest) e

/--
A state that ends a parse.
-/
inductive Ends (g : Grammar) (maxDepth : Nat) : Config → Ending → Prop where
  | badToken {goals refused forest t ts complaint} (h : t.fault? = some complaint) :
    Ends g maxDepth ⟨goals, refused, forest, t :: ts⟩ (.halt (.badToken t complaint))
  | unexpected {goal goals refused forest t ts unmet} (clean : t.fault? = none)
      (h : goal.answer g t.symbol = .refuse unmet) :
    Ends g maxDepth ⟨goal :: goals, refused, forest, t :: ts⟩
      (.halt (.unexpected t (refused ++ unmet)))
  | tooDeep {goal goals refused forest t ts} (clean : t.fault? = none)
      (h : goal.answer g t.symbol = .tooDeep) :
    Ends g maxDepth ⟨goal :: goals, refused, forest, t :: ts⟩ (.halt (.tooDeep maxDepth t))
  | accept {refused forest t ts} (clean : t.fault? = none) :
    Ends g maxDepth ⟨[], refused, forest, t :: ts⟩ (.accept t.location)

/--
The state in front of the first token.
-/
def Config.start (maxDepth : Nat) (tokens : List Token) : Config :=
  ⟨Goal.program maxDepth, [], [], tokens⟩

namespace Steps

variable {g : Grammar}

theorem single {c d : Config} {moves : List Move} (h : Step g c moves d) : Steps g c moves d := by
  have := Steps.head h (.refl d)
  simpa using this

theorem trans {c d e : Config} {first rest : List Move} (h : Steps g c first d)
    (hs : Steps g d rest e) : Steps g c (first ++ rest) e := by
  induction h with
  | refl => exact hs
  | head h _ ih =>
    rw [List.append_assoc]
    exact .head h (ih hs)

theorem reduces {t : Token} (clean : t.fault? = none) (rules : List Rule) (goals : List Goal)
    (refused : List Symbol) (forest : Forest) (ts : List Token) :
    Steps g ⟨rules.map .reduce ++ goals, refused, forest, t :: ts⟩
      (rules.map (.reduce · t.location))
      ⟨goals, refused, rules.foldl Forest.reduce forest, t :: ts⟩ := by
  induction rules generalizing forest with
  | nil => exact .refl _
  | cons r rules ih => exact .head (.reduce clean) (ih _)

theorem met {t : Token} (clean : t.fault? = none) {goal : Goal} {rules : List Rule}
    {unmet : List Symbol} (h : goal.answer g t.symbol = .met rules unmet) (goals : List Goal)
    (refused : List Symbol) (forest : Forest) (ts : List Token) :
    Steps g ⟨goal :: goals, refused, forest, t :: ts⟩ (rules.map (.reduce · t.location))
      ⟨goals, refused ++ unmet, rules.foldl Forest.reduce forest, t :: ts⟩ := by
  by_cases hr : ∃ r, goal = .reduce r
  · obtain ⟨r, rfl⟩ := hr
    obtain ⟨rfl, rfl⟩ : [r] = rules ∧ [] = unmet := by simpa [Goal.answer] using h
    simpa using Steps.single (.reduce clean)
  · have hr : ∀ r, goal ≠ .reduce r := by simpa using hr
    exact .head (.met clean h hr) (.reduces clean ..)

end Steps

theorem Step.unique {g : Grammar} {c d d' : Config} {moves moves' : List Move}
    (h : Step g c moves d) (h' : Step g c moves' d') : moves = moves' ∧ d = d' := by
  cases h with
  | reduce =>
    cases h' with
    | reduce => exact ⟨rfl, rfl⟩
    | met _ _ hr => exact absurd rfl (hr _)
    | shift _ ha => simp [Goal.answer] at ha
  | met _ ha hr =>
    cases h' with
    | reduce => exact absurd rfl (hr _)
    | met _ ha' _ =>
      obtain ⟨rfl, rfl⟩ : _ ∧ _ := by simpa [ha] using ha'
      exact ⟨rfl, rfl⟩
    | shift _ ha' => simp [ha] at ha'
  | shift _ ha =>
    cases h' with
    | reduce => simp [Goal.answer] at ha
    | met _ ha' _ => simp [ha] at ha'
    | shift _ ha' =>
      obtain rfl : _ = _ := by simpa [ha] using ha'
      exact ⟨rfl, rfl⟩

theorem Ends.unique {g : Grammar} {maxDepth : Nat} {c : Config} {e e' : Ending}
    (h : Ends g maxDepth c e) (h' : Ends g maxDepth c e') : e = e' := by
  cases h <;> cases h' <;> simp_all

theorem Ends.not_step {g : Grammar} {maxDepth : Nat} {c d : Config} {e : Ending}
    {moves : List Move} (h : Ends g maxDepth c e) : ¬ Step g c moves d := by
  intro hs
  cases h <;> cases hs <;> simp_all [Goal.answer]

/--
There is only one way from a state to the end of the parse.
-/
theorem Steps.unique {g : Grammar} {maxDepth : Nat} {c d d' : Config} {moves moves' : List Move}
    {e e' : Ending} (hs : Steps g c moves d) (he : Ends g maxDepth d e) (hs' : Steps g c moves' d')
    (he' : Ends g maxDepth d' e') : moves = moves' ∧ d = d' ∧ e = e' := by
  induction hs generalizing moves' with
  | refl =>
    cases hs' with
    | refl => exact ⟨rfl, rfl, he.unique he'⟩
    | head h' => exact absurd h' he.not_step
  | head h _ ih =>
    cases hs' with
    | refl => exact absurd h he'.not_step
    | head h' hs' =>
      -- Both runs begin with the same moves, as no state has two.
      obtain ⟨rfl, rfl⟩ := h.unique h'
      obtain ⟨rfl, hd, he⟩ := ih he hs'
      exact ⟨rfl, hd, he⟩

namespace Answer

theorem followedBy_eq_met {a : Answer} {goals : List Goal} {rules : List Rule}
    {unmet : List Symbol} : a.followedBy goals = .met rules unmet ↔ a = .met rules unmet := by
  cases a <;> simp [followedBy]

theorem followedBy_eq_shift {a : Answer} {goals all : List Goal} :
    a.followedBy goals = .shift all ↔ ∃ first, a = .shift first ∧ first ++ goals = all := by
  cases a <;> simp [followedBy]

@[simp]
theorem followedBy_nil (a : Answer) : a.followedBy [] = a := by
  cases a <;> simp [followedBy]

@[simp]
theorem followedBy_followedBy (a : Answer) (goals more : List Goal) :
    (a.followedBy goals).followedBy more = a.followedBy (goals ++ more) := by
  cases a <;> simp [followedBy]

end Answer

theorem Goal.answer_eof (g : Grammar) (goal : Goal) (goals : List Goal) :
    goal.answer g .eof ≠ .shift goals := by
  cases goal with
  | take s => grind [Goal.answer]
  | args budget =>
    cases budget <;>
      simp [Goal.answer, Goal.answerExpression, Goal.answerFactor, Answer.followedBy] <;> grind
  | expression budget | operand level budget | signed budget =>
    cases budget <;>
      simp [Goal.answer, Goal.answerExpression, Goal.answerFactor, Answer.followedBy]
  | operators level budget =>
    have : level.operators.lookup .eof = none := by cases level <;> rfl
    simp [Goal.answer, this]
  | _ => simp [Goal.answer, Goal.answerStatements]

end StartEnd
