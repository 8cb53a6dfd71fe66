import StartEnd.Proofs.Derivation.Level
import StartEnd.Proofs.Grammar.Standard

/-!
This module contains the terminals that each goal of a parse takes, and how a goal answers all other
terminals: in the same way, whatever they are.
-/

namespace StartEnd

namespace Goal

open Grammar

/--
The terminals that a goal takes.
-/
def starts : Goal → List Symbol
  | .take s => [s]
  | .reduce _ => []
  | .statements _ _ => statementStarts
  | .namedStatement _ => [.lParen, .assign]
  | .elseBranch _ => [.elseKw]
  | .type => typeStarts
  | .params => [.identifier]
  | .moreParams _ => [.comma]
  | .args _ => expressionStarts
  | .moreArgs _ _ => [.comma]
  | .expression _ => expressionStarts
  | .operand _ _ => expressionStarts
  | .operators level _ => level.operators.map Prod.fst
  | .namedFactor _ => [.lParen]
  | .signed _ => expressionStarts

/--
How a goal answers a terminal that it does not take.
-/
def otherwise : Goal → Answer
  | .take s => .refuse [s]
  | .reduce r => .met [r] []
  | .statements read _ =>
    .met (.empty :: .statementEmpty :: List.replicate read .statementList) statementStarts
  | .namedStatement _ => .refuse [.lParen, .assign]
  | .elseBranch _ => .met [.empty, .optionalElseEmpty] [.elseKw]
  | .type => .refuse typeStarts
  | .params => .met [.empty, .optionalParamsEmpty] [.identifier]
  | .moreParams read =>
    .met ([.empty, .paramTailEmpty] ++ List.replicate read .paramTailComma
      ++ [.paramList, .optionalParamsList]) [.comma]
  | .args _ => .met [.empty, .optionalArgsEmpty] expressionStarts
  | .moreArgs read _ =>
    .met ([.empty, .argTailEmpty] ++ List.replicate read .argTailComma
      ++ [.argList, .optionalArgsList]) [.comma]
  | .expression 0 => .tooDeep
  | .expression (_ + 1) => .refuse expressionStarts
  | .operand _ _ => .refuse expressionStarts
  | .operators level _ => .met [] (level.operators.map Prod.fst)
  | .namedFactor _ => .met [.factorIdentifier] [.lParen]
  | .signed 0 => .tooDeep
  | .signed (_ + 1) => .refuse expressionStarts

theorem answerFactor_of_not_mem (budget : Nat) {s : Symbol} (h : s ∉ expressionStarts) :
    answerFactor .standard budget s = .refuse expressionStarts := by
  simp only [expressionStarts, List.mem_cons, List.not_mem_nil, or_false, not_or] at h
  rw [← standard_first.1]
  simp [answerFactor, h]

theorem answerStatements_of_not_mem (read budget : Nat) {s : Symbol} (h : s ∉ statementStarts) :
    answerStatements .standard read budget s
      =
    .met (.empty :: .statementEmpty :: List.replicate read .statementList) statementStarts := by
  simp only [statementStarts, List.mem_cons, List.not_mem_nil, or_false, not_or] at h
  rw [← standard_first.2.2.1]
  simp [answerStatements, h]

theorem answer_of_not_mem {goal : Goal} {s : Symbol} (h : s ∉ goal.starts) :
    goal.answer .standard s = goal.otherwise := by
  cases goal with
  | take t =>
    have hne : s ≠ t := by simpa [starts] using h
    simp [answer, otherwise, hne]
  | reduce r => rfl
  | statements read budget => exact answerStatements_of_not_mem read budget h
  | type =>
    simp only [starts, typeStarts, List.mem_cons, List.not_mem_nil, or_false, not_or] at h
    unfold otherwise
    rw [← standard_first.2.2.2]
    simp [answer, h]
  | args budget =>
    have hnot : s ∉ standard.first .expression := by rwa [standard_first.2.1]
    simp only [answer]
    rw [if_neg hnot, standard_first.2.1]
    rfl
  | expression budget =>
    cases budget with
    | zero => rfl
    | succ budget =>
      simp only [answer, answerExpression]
      rw [answerFactor_of_not_mem budget h]
      rfl
  | operand level budget =>
    simp only [answer]
    rw [answerFactor_of_not_mem budget h]
    rfl
  | operators level budget =>
    have hlookup : level.operators.lookup s = none := by
      rw [List.lookup_eq_none_iff]
      intro entry hentry
      simp only [starts, List.mem_map, not_exists, not_and] at h
      rw [bne_iff_ne]
      apply fun he => h entry hentry he.symm
    simp [answer, otherwise, hlookup]
  | signed budget =>
    cases budget with
    | zero => rfl
    | succ budget => exact answerFactor_of_not_mem budget h
  | namedStatement budget =>
    simp only [starts, List.mem_cons, List.not_mem_nil, or_false, not_or] at h
    simp [answer, otherwise, h]
  | elseBranch budget | params | moreParams read | moreArgs read budget | namedFactor budget =>
    have hne := List.mem_singleton.not.mp h
    simp only [answer, otherwise]

theorem eq_starts_of_otherwise {goal : Goal} {unmet : List Symbol}
    (h : (∃ rules, goal.otherwise = .met rules unmet) ∨ goal.otherwise = .refuse unmet) :
    unmet = goal.starts := by
  cases goal with
  | expression budget | signed budget =>
    cases budget <;> simp_all [otherwise, starts]
  | _ => simp_all [otherwise, starts]

end Goal

end StartEnd
