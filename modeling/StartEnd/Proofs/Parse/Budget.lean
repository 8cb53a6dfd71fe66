import StartEnd.Proofs.Parse.Deepen

/-!
This module contains how fast the budgets of goals are used up: taking a token costs every goal that
it leaves behind at most one level, so that a parse never nests deeper than it has taken tokens.
-/

namespace StartEnd

namespace Answer

theorem followedBy_eq_tooDeep {a : Answer} {goals : List Goal} :
    a.followedBy goals = .tooDeep ↔ a = .tooDeep := by
  cases a <;> simp [followedBy]

end Answer

namespace Goal

variable {g : Grammar}

/--
The number of levels that a goal may still enter, if it may contain nested constructs.
-/
def budget? : Goal → Option Nat
  | .statements _ budget => some budget
  | .namedStatement budget => some budget
  | .elseBranch budget => some budget
  | .args budget => some budget
  | .moreArgs _ budget => some budget
  | .expression budget => some budget
  | .operand _ budget => some budget
  | .operators _ budget => some budget
  | .namedFactor budget => some budget
  | .signed budget => some budget
  | _ => none

/--
Each goal that may contain nested constructs can enter the given number of levels.
-/
def Afford (goals : List Goal) (n : Nat) : Prop := ∀ goal ∈ goals, ∀ budget ∈ goal.budget?, n ≤ budget

@[simp]
theorem afford_nil (n : Nat) : Afford [] n := by
  simp [Afford]

@[simp]
theorem afford_cons {goal : Goal} {goals : List Goal} {n : Nat} :
    Afford (goal :: goals) n ↔ (∀ budget ∈ goal.budget?, n ≤ budget) ∧ Afford goals n := by
  simp [Afford]

@[simp]
theorem afford_append {first goals : List Goal} {n : Nat} :
    Afford (first ++ goals) n ↔ Afford first n ∧ Afford goals n := by
  simp only [Afford, List.mem_append, or_imp, forall_and]

theorem Afford.mono {goals : List Goal} {n m : Nat} (h : Afford goals n) (hm : m ≤ n) :
    Afford goals m := fun goal hg budget hb => Nat.le_trans hm (h goal hg budget hb)

theorem afford_climb {n budget : Nat} (h : n ≤ budget) (levels : List Level) :
    Afford (climb budget levels) n := by
  induction levels with
  | nil => simp [climb]
  | cons level levels ih =>
    unfold climb at ih ⊢
    simp [budget?, h, ih]

theorem afford_factor {n budget : Nat} {s : Symbol} {first : List Goal}
    (ha : answerFactor g budget s = .shift first) (h : n ≤ budget) : Afford first n := by
  unfold answerFactor at ha
  split at ha <;> simp only [Answer.shift.injEq, reduceCtorEq] at ha <;> subst ha <;>
    simp [budget?, h]

theorem afford_expression {n budget : Nat} {s : Symbol} {first : List Goal}
    (ha : answerExpression g budget s = .shift first) (h : n + 1 ≤ budget) : Afford first n := by
  cases budget with
  | zero => cases ha
  | succ budget =>
    have h : n ≤ budget := Nat.le_of_succ_le_succ h
    obtain ⟨front, hfront, rfl⟩ := Answer.followedBy_eq_shift.mp ha
    simp only [restOfExpression, afford_append]
    refine ⟨afford_factor hfront h, afford_climb h _, ?_⟩
    simp [budget?]

theorem afford_statements {n read budget : Nat} {s : Symbol} {first : List Goal}
    (ha : answerStatements g read budget s = .shift first) (h : n + 1 ≤ budget) :
    Afford first n := by
  unfold answerStatements at ha
  split at ha <;> simp only [Answer.shift.injEq, reduceCtorEq] at ha <;> subst ha <;>
    simp [budget?] <;> omega

/--
Taking a token costs at most one level.
-/
theorem afford_of_shift {goal : Goal} {s : Symbol} {first : List Goal} {n : Nat}
    (ha : goal.answer g s = .shift first) (h : ∀ budget ∈ goal.budget?, n + 1 ≤ budget) :
    Afford first n := by
  cases goal with
  | take t =>
    obtain rfl : [] = first := by
      simp only [answer] at ha
      grind
    simp
  | reduce r => simp [answer] at ha
  | statements read budget => exact afford_statements ha (h budget rfl)
  | args budget =>
    have h := h budget rfl
    simp only [answer] at ha
    split at ha
    · obtain ⟨front, hfront, rfl⟩ := Answer.followedBy_eq_shift.mp ha
      have := afford_expression hfront h
      simp [this, budget?]
      omega
    · cases ha
  | expression budget => exact afford_expression ha (h budget rfl)
  | operand level budget =>
    have h := Nat.le_of_succ_le (h budget rfl)
    obtain ⟨front, hfront, rfl⟩ := Answer.followedBy_eq_shift.mp ha
    simp [afford_factor hfront h, afford_climb h]
  | signed budget =>
    cases budget with
    | zero => cases ha
    | succ budget => exact afford_factor ha (Nat.le_of_succ_le_succ (h _ rfl))
  | operators level budget | namedStatement budget | elseBranch budget | moreArgs read budget
  | namedFactor budget =>
    have h := Nat.le_of_succ_le (h budget rfl)
    simp only [answer] at ha
    split at ha <;> simp only [Answer.shift.injEq, reduceCtorEq] at ha <;> subst ha <;>
      simp [restOfCall, budget?, h]
  | type | params | moreParams read =>
    simp only [answer] at ha
    split at ha <;> simp only [Answer.shift.injEq, reduceCtorEq] at ha <;> subst ha <;>
      simp [budget?]

theorem answerFactor_ne_tooDeep (budget : Nat) (s : Symbol) :
    answerFactor g budget s ≠ .tooDeep := by
  unfold answerFactor
  split <;> simp

theorem answerExpression_eq_tooDeep {budget : Nat} {s : Symbol}
    (ha : answerExpression g budget s = .tooDeep) : budget = 0 := by
  cases budget with
  | zero => rfl
  | succ budget => exact absurd (Answer.followedBy_eq_tooDeep.mp ha) (answerFactor_ne_tooDeep budget s)

/--
Only a goal that has used up its budget gives up.
-/
theorem budget?_of_tooDeep {goal : Goal} {s : Symbol} (ha : goal.answer g s = .tooDeep) :
    goal.budget? = some 0 := by
  cases goal with
  | take t =>
    simp only [answer] at ha
    grind
  | reduce r => simp [answer] at ha
  | statements read budget =>
    simp only [answer, answerStatements] at ha
    split at ha <;> first | rfl | simp at ha
  | args budget =>
    simp only [answer] at ha
    split at ha
    · rw [answerExpression_eq_tooDeep (Answer.followedBy_eq_tooDeep.mp ha)]
      rfl
    · cases ha
  | expression budget =>
    rw [answerExpression_eq_tooDeep ha]
    rfl
  | operand level budget =>
    exact absurd (Answer.followedBy_eq_tooDeep.mp ha) (answerFactor_ne_tooDeep budget s)
  | signed budget =>
    cases budget with
    | zero => rfl
    | succ budget => exact absurd ha (answerFactor_ne_tooDeep budget s)
  | _ =>
    simp only [answer] at ha
    split at ha <;> cases ha

end Goal

namespace Run

variable {g : Grammar}

theorem afford_settle {s : Symbol} {goals next : List Goal} {refused : List Symbol} {n : Nat}
    (hv : (settle g s goals refused).2 = .shift next) (h : Goal.Afford goals (n + 1)) :
    Goal.Afford next n := by
  induction goals generalizing refused with
  | nil => cases hv
  | cons goal goals ih =>
    obtain ⟨hgoal, hgoals⟩ := Goal.afford_cons.mp h
    unfold settle at hv
    cases ha : goal.answer g s with
    | met rules unmet =>
      rw [ha] at hv
      exact ih hv hgoals
    | shift first =>
      rw [ha] at hv
      cases hv
      exact Goal.afford_append.mpr ⟨Goal.afford_of_shift ha hgoal, hgoals.mono (Nat.le_succ n)⟩
    | refuse unmet => simp [ha] at hv
    | tooDeep => simp [ha] at hv

theorem afford_advance {goals next : List Goal} {tokens : List Token} {n : Nat}
    (h : advance g goals tokens = some next) (ha : Goal.Afford goals (n + tokens.length)) :
    Goal.Afford next n := by
  induction tokens generalizing goals with
  | nil =>
    obtain rfl : goals = next := by simpa [advance] using h
    exact ha
  | cons t ts ih =>
    unfold advance at h
    split at h
    · next hv => exact ih h (afford_settle hv ha)
    · cases h

theorem settle_ne_tooDeep {s : Symbol} {goals : List Goal} {refused : List Symbol}
    (h : Goal.Afford goals 1) : (settle g s goals refused).2 ≠ .tooDeep := by
  induction goals generalizing refused with
  | nil => simp [settle]
  | cons goal goals ih =>
    obtain ⟨hgoal, hgoals⟩ := Goal.afford_cons.mp h
    unfold settle
    cases ha : goal.answer g s with
    | met rules unmet => exact ih hgoals
    | shift first => simp
    | refuse unmet => simp
    | tooDeep =>
      have := hgoal 0 (Goal.budget?_of_tooDeep ha)
      omega

/--
A parse that is stopped by the nesting limit has taken more tokens than the limit says.
-/
theorem lt_length_of_tooDeep {maxDepth : Nat} {tokens : List Token} {next : List Goal} {s : Symbol}
    (h : advance g (Goal.program maxDepth) tokens = some next)
    (hv : (settle g s next []).2 = .tooDeep) : maxDepth < tokens.length := by
  cases tokens with
  | nil =>
    -- Nothing can be too deep in front of the word that opens the program.
    obtain rfl : Goal.program maxDepth = next := by simpa [advance] using h
    by_cases hs : s = .startKw <;> simp [Goal.program, settle, Goal.answer, hs] at hv
  | cons t ts =>
    apply Classical.byContradiction
    intro hle
    unfold advance at h
    split at h
    · next hshift =>
      have hstart : t.symbol = .startKw := by
        apply Classical.byContradiction
        intro hne
        simp [Goal.program, settle, Goal.answer, hne] at hshift
      simp only [Goal.program, settle, Goal.answer, hstart] at hshift
      cases hshift
      apply settle_ne_tooDeep (afford_advance h _) hv
      simp [Goal.budget?]
      simp at hle
      omega
    · cases h

end Run

end StartEnd
