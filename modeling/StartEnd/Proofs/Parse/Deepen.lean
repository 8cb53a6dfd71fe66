import StartEnd.Proofs.Parse.Advance

/-!
This module contains what becomes of a parse when its constructs may be nested deeper: as long as
goals do not give up because of the nesting, they answer in the same way, and they leave the same
goals behind with larger budgets.
-/

namespace StartEnd

namespace Goal

/--
The same goal with a larger budget.
-/
def deepen (k : Nat) : Goal → Goal
  | .statements read budget => .statements read (budget + k)
  | .namedStatement budget => .namedStatement (budget + k)
  | .elseBranch budget => .elseBranch (budget + k)
  | .args budget => .args (budget + k)
  | .moreArgs read budget => .moreArgs read (budget + k)
  | .expression budget => .expression (budget + k)
  | .operand level budget => .operand level (budget + k)
  | .operators level budget => .operators level (budget + k)
  | .namedFactor budget => .namedFactor (budget + k)
  | .signed budget => .signed (budget + k)
  | goal => goal

end Goal

def Answer.deepen (k : Nat) : Answer → Answer
  | .shift goals => .shift (goals.map (Goal.deepen k))
  | a => a

def Verdict.deepen (k : Nat) : Verdict → Verdict
  | .shift goals => .shift (goals.map (Goal.deepen k))
  | v => v

namespace Goal

variable {g : Grammar} (k : Nat)

theorem deepen_program (budget : Nat) : (program budget).map (deepen k) = program (budget + k) := by
  rfl

theorem deepen_climb (budget : Nat) (levels : List Level) :
    (climb budget levels).map (deepen k) = climb (budget + k) levels := by
  unfold climb
  rw [List.map_flatMap]
  rfl

theorem deepen_restOfExpression (budget : Nat) :
    (restOfExpression budget).map (deepen k) = restOfExpression (budget + k) := by
  unfold restOfExpression
  rw [List.map_append, deepen_climb]
  rfl

theorem followedBy_deepen (a : Answer) (goals : List Goal) :
    (a.followedBy goals).deepen k = (a.deepen k).followedBy (goals.map (deepen k)) := by
  cases a <;> simp [Answer.followedBy, Answer.deepen]

theorem answerFactor_deepen (budget : Nat) (s : Symbol) :
    answerFactor g (budget + k) s = (answerFactor g budget s).deepen k := by
  unfold answerFactor
  split <;> rfl

theorem answerExpression_deepen {budget : Nat} {s : Symbol}
    (h : answerExpression g budget s ≠ .tooDeep) :
    answerExpression g (budget + k) s = (answerExpression g budget s).deepen k := by
  cases budget with
  | zero => exact absurd rfl h
  | succ budget =>
    rw [Nat.add_right_comm]
    simp only [answerExpression]
    rw [followedBy_deepen, answerFactor_deepen, deepen_restOfExpression]

theorem answerStatements_deepen {read budget : Nat} {s : Symbol}
    (h : answerStatements g read budget s ≠ .tooDeep) :
    answerStatements g read (budget + k) s = (answerStatements g read budget s).deepen k := by
  by_cases hs : s ∈ [.ifKw, .whileKw, .functionKw]
  · simp only [List.mem_cons, List.not_mem_nil, or_false] at hs
    cases budget with
    | zero => obtain rfl | rfl | rfl := hs <;> exact absurd rfl h
    | succ inner =>
      have hk : inner + 1 + k = inner + k + 1 := by omega
      obtain rfl | rfl | rfl := hs <;>
        simp [answerStatements, Answer.deepen, deepen, hk]
  · cases s
    case ifKw | whileKw | functionKw => simp at hs
    all_goals rfl

theorem answer_deepen {goal : Goal} {s : Symbol} (h : goal.answer g s ≠ .tooDeep) :
    (goal.deepen k).answer g s = (goal.answer g s).deepen k := by
  cases goal with
  | take t =>
    simp only [deepen, answer]
    split
    · rfl
    · split <;> rfl
  | reduce r => rfl
  | statements read budget => exact answerStatements_deepen k h
  | namedStatement budget =>
    simp only [deepen, answer]
    split <;> rfl
  | elseBranch budget =>
    simp only [deepen, answer]
    split <;> rfl
  | type =>
    simp only [deepen, answer]
    split <;> rfl
  | params =>
    simp only [deepen, answer]
    split <;> rfl
  | moreParams read =>
    simp only [deepen, answer]
    split <;> rfl
  | args budget =>
    simp only [deepen, answer] at h ⊢
    split at h
    · next hs =>
      have hne : answerExpression g budget s ≠ .tooDeep := by
        intro he
        rw [he] at h
        apply h rfl
      rw [if_pos hs, if_pos hs, followedBy_deepen, answerExpression_deepen k hne]
      rfl
    · next hs =>
      rw [if_neg hs, if_neg hs]
      rfl
  | moreArgs read budget =>
    simp only [deepen, answer]
    split <;> rfl
  | expression budget => exact answerExpression_deepen k h
  | operand level budget =>
    simp only [deepen, answer]
    rw [followedBy_deepen, answerFactor_deepen, deepen_climb]
  | operators level budget =>
    simp only [deepen, answer]
    split <;> rfl
  | namedFactor budget =>
    simp only [deepen, answer]
    split <;> rfl
  | signed budget =>
    cases budget with
    | zero => exact absurd rfl h
    | succ budget =>
      simp only [deepen]
      rw [Nat.add_right_comm]
      apply answerFactor_deepen

end Goal

namespace Run

variable {g : Grammar} (k : Nat)

theorem settle_deepen {s : Symbol} {goals : List Goal} {refused : List Symbol}
    (h : (settle g s goals refused).2 ≠ .tooDeep) :
    (settle g s (goals.map (Goal.deepen k)) refused).2 = (settle g s goals refused).2.deepen k := by
  -- The goals are answered in turn until one is not met, and each answers the same when deepened.
  induction goals generalizing refused with
  | nil => rfl
  | cons goal goals ih =>
    have hne : goal.answer g s ≠ .tooDeep := by
      intro ha
      simp [settle, ha] at h
    have ha := Goal.answer_deepen k hne
    rw [List.map_cons]
    unfold settle at h ⊢
    rw [ha]
    cases hanswer : goal.answer g s with
    | met rules unmet =>
      rw [hanswer] at h
      apply ih h
    | shift first => simp [Answer.deepen, Verdict.deepen]
    | refuse unmet => rfl
    | tooDeep => exact absurd hanswer hne

theorem advance_deepen {goals next : List Goal} {tokens : List Token}
    (h : advance g goals tokens = some next) :
    advance g (goals.map (Goal.deepen k)) tokens = some (next.map (Goal.deepen k)) := by
  induction tokens generalizing goals with
  | nil =>
    obtain rfl : goals = next := by simpa [advance] using h
    rfl
  | cons t ts ih =>
    unfold advance at h
    split at h
    · next clean hv =>
      have hne : (settle g t.symbol goals []).2 ≠ .tooDeep := by simp [hv]
      have hdeep := settle_deepen k hne
      rw [hv] at hdeep
      rw [advance_cons clean hdeep]
      apply ih h
    · cases h

end Run

end StartEnd
