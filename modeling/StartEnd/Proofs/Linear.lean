import Mathlib.Algebra.GroupWithZero.Nat
import StartEnd.Proofs.Session
import StartEnd.Proofs.Trace.Replay

/-!
This module contains the proof that a parse is linear in the tokens that it takes. The goals of a
parse owe reductions, and taking a token adds at most eight to what they owe; and the loops among
the goals, which read lists and chains of operators, take a token in each round.
-/

namespace StartEnd

theorem Move.length_eq (moves : List Move) :
    moves.length = (moves.filterMap token?).length + (moves.filterMap rule?).length := by
  induction moves with
  | nil => rfl
  | cons move moves ih =>
    cases move <;> simp [token?, rule?, ih, List.filterMap_cons] <;> omega

namespace Goal

/--
The reductions that a goal owes: no fewer than it makes when it is met. The arguments of a call owe
more than that, as their first token owes the reductions of the list on top of those of its own.
-/
def debt : Goal → Nat
  | .reduce _ => 1
  | .statements read _ => read + 2
  | .elseBranch _ => 2
  | .params => 2
  | .moreParams read => read + 4
  | .args _ => 4
  | .moreArgs read _ => read + 4
  | .namedFactor _ => 1
  | _ => 0

def debtOf (goals : List Goal) : Nat := (goals.map debt).sum

@[simp]
theorem debtOf_nil : debtOf [] = 0 := rfl

@[simp]
theorem debtOf_cons (goal : Goal) (goals : List Goal) :
    debtOf (goal :: goals) = goal.debt + debtOf goals := by
  simp [debtOf]

@[simp]
theorem debtOf_append (first goals : List Goal) :
    debtOf (first ++ goals) = debtOf first + debtOf goals := by
  simp [debtOf]

@[simp]
theorem debtOf_reduce (rules : List Rule) : debtOf (rules.map reduce) = rules.length := by
  induction rules with
  | nil => rfl
  | cons r rules ih => simp [ih, debt, Nat.add_comm]

@[simp]
theorem debtOf_climb (budget : Nat) (levels : List Level) :
    debtOf (climb budget levels) = levels.length := by
  induction levels with
  | nil => rfl
  | cons level levels ih =>
    unfold climb at ih ⊢
    simp [ih, debt, Nat.add_comm]

theorem length_tighter_le (level : Level) : level.tighter.length ≤ 5 := by
  cases level <;> decide

variable {g : Grammar}

/--
A goal that is met makes no more reductions than it owes.
-/
theorem length_le_debt {goal : Goal} {s : Symbol} {rules : List Rule} {unmet : List Symbol}
    (ha : goal.answer g s = .met rules unmet) : rules.length ≤ goal.debt := by
  cases goal with
  | take t =>
    obtain ⟨-, rfl⟩ : t = .eof ∧ rules = [] := by grind [answer]
    apply Nat.le_refl
  | reduce r =>
    obtain ⟨rfl, -⟩ : [r] = rules ∧ [] = unmet := by simpa [answer] using ha
    apply Nat.le_refl
  | statements read budget =>
    obtain ⟨rfl, -⟩ := answerStatements_eq_met ha
    simp [debt]
  | args budget =>
    simp only [answer] at ha
    split at ha
    · exact absurd (Answer.followedBy_eq_met.mp ha) (answerExpression_ne_met budget s rules unmet)
    · obtain ⟨rfl, -⟩ := Answer.met.inj ha
      simp [debt]
  | expression budget => exact absurd ha (answerExpression_ne_met budget s rules unmet)
  | operand level budget =>
    exact absurd (Answer.followedBy_eq_met.mp ha) (answerFactor_ne_met budget s rules unmet)
  | signed budget =>
    cases budget with
    | zero => cases ha
    | succ budget => exact absurd ha (answerFactor_ne_met budget s rules unmet)
  | _ =>
    simp only [answer] at ha
    split at ha <;> cases ha <;> simp [debt]

theorem debtOf_factor {budget : Nat} {s : Symbol} {first : List Goal}
    (ha : answerFactor g budget s = .shift first) : debtOf first = 1 := by
  unfold answerFactor at ha
  split at ha <;> simp only [Answer.shift.injEq, reduceCtorEq] at ha <;> subst ha <;> rfl

/--
A factor is raised to an expression by seven reductions.
-/
theorem debtOf_expression {budget : Nat} {s : Symbol} {first : List Goal}
    (ha : answerExpression g budget s = .shift first) : debtOf first = 8 := by
  cases budget with
  | zero => cases ha
  | succ budget =>
    obtain ⟨front, hfront, rfl⟩ := Answer.followedBy_eq_shift.mp ha
    simp [debtOf_factor hfront, restOfExpression, Level.tighter, debt]

theorem debtOf_statements {read budget : Nat} {s : Symbol} {first : List Goal}
    (ha : answerStatements g read budget s = .shift first) : debtOf first ≤ read + 10 := by
  unfold answerStatements at ha
  split at ha <;> simp only [Answer.shift.injEq, reduceCtorEq] at ha <;> subst ha <;>
    simp [debt] <;> omega

/--
Taking a token adds at most eight reductions to those that are owed.
-/
theorem debtOf_of_shift {goal : Goal} {s : Symbol} {first : List Goal}
    (ha : goal.answer g s = .shift first) : debtOf first ≤ goal.debt + 8 := by
  cases goal with
  | take t =>
    obtain rfl : [] = first := by
      simp only [answer] at ha
      grind
    simp
  | reduce r => simp [answer] at ha
  | statements read budget => exact debtOf_statements ha
  | args budget =>
    simp only [answer] at ha
    split at ha
    · obtain ⟨front, hfront, rfl⟩ := Answer.followedBy_eq_shift.mp ha
      simp [debtOf_expression hfront, debt]
    · cases ha
  | expression budget => simp [debtOf_expression ha]
  | operand level budget =>
    obtain ⟨front, hfront, rfl⟩ := Answer.followedBy_eq_shift.mp ha
    have := length_tighter_le level
    simp only [debtOf_append, debtOf_factor hfront, debtOf_climb]
    omega
  | signed budget =>
    cases budget with
    | zero => cases ha
    | succ budget => simp [debtOf_factor ha]
  | _ =>
    simp only [answer] at ha
    split at ha <;> simp only [Answer.shift.injEq, reduceCtorEq] at ha <;> subst ha <;>
      simp [debt, restOfCall] <;> omega

/--
The goals that go on with a list of statements, parameters or arguments or with a chain of
operators: when they have taken an element, they are to be done again behind it.
-/
def isLoop : Goal → Bool
  | .statements _ _ | .moreParams _ | .moreArgs _ _ | .operators _ _ => true
  | _ => false

/--
The goals that wait for a lookahead to decide about them.
-/
def isPending : Goal → Bool
  | .reduce _ => false
  | _ => true

end Goal

open Goal

variable {g : Grammar} {c d : Config} {moves : List Move}

theorem Step.debt_le (h : Step g c moves d) :
    (moves.filterMap Move.rule?).length + debtOf d.goals
      ≤
    debtOf c.goals + 8 * (moves.filterMap Move.token?).length := by
  cases h with
  | reduce clean => simp [Move.rule?, Move.token?, debt]
  | met clean ha hr =>
    have := length_le_debt ha
    simpa using this
  | shift clean ha =>
    have := debtOf_of_shift ha
    simp only [Move.rule?, Move.token?, List.filterMap_cons, List.filterMap_nil, List.length_nil,
      List.length_singleton, debtOf_append, debtOf_cons]
    omega

theorem Steps.debt_le (h : Steps g c moves d) :
    (moves.filterMap Move.rule?).length + debtOf d.goals
      ≤
    debtOf c.goals + 8 * (moves.filterMap Move.token?).length := by
  induction h with
  | refl => simp
  | head h _ ih =>
    have := h.debt_le
    simp only [List.filterMap_append, List.length_append]
    omega

theorem Step.of_start {maxDepth : Nat} {tokens : List Token}
    (h : Step g (.start maxDepth tokens) moves d) :
    ∃ t, moves = [.shift t] ∧ d.goals = (program maxDepth).tail := by
  unfold Config.start program at h
  cases h with
  | met clean ha hr =>
    simp only [answer] at ha
    grind
  | shift clean ha =>
    rename_i t ts first
    obtain rfl : [] = first := by
      simp only [answer] at ha
      grind
    exact ⟨_, rfl, rfl⟩

/--
A run reduces at most eight times for each token that it takes: the word that opens the program pays
for what the goals owe from the start.
-/
theorem Steps.length_rules_le {maxDepth : Nat} {tokens : List Token}
    (h : Steps g (.start maxDepth tokens) moves d) :
    (moves.filterMap Move.rule?).length ≤ 8 * (moves.filterMap Move.token?).length := by
  cases h with
  | refl => simp
  | head h hs =>
    obtain ⟨t, rfl, hgoals⟩ := h.of_start
    have hdebt := hs.debt_le
    have hstart : debtOf (program maxDepth).tail = 3 := rfl
    rw [hgoals, hstart] at hdebt
    simp only [List.singleton_append, List.filterMap_cons, Move.rule?, Move.token?,
      List.length_cons]
    omega

theorem isPending_of_isLoop {goal : Goal} (h : goal.isLoop) : goal.isPending := by
  cases goal <;> first | rfl | cases h

theorem countP_isPending_reduce (rules : List Rule) :
    (rules.map Goal.reduce).countP isPending = 0 := by
  simp [isPending]

/--
Without a token, goals that wait for one are only done away with.
-/
theorem Step.countP_isPending_le (h : Step g c moves d) (hm : ∀ t, .shift t ∉ moves) :
    d.goals.countP isPending ≤ c.goals.countP isPending := by
  cases h with
  | reduce clean => simp [isPending]
  | met clean ha hr =>
    rw [List.countP_append, countP_isPending_reduce, Nat.zero_add]
    exact (List.sublist_cons_self ..).countP_le
  | shift clean ha => simp at hm

theorem Steps.countP_isPending_le (h : Steps g c moves d) (hm : ∀ t, .shift t ∉ moves) :
    d.goals.countP isPending ≤ c.goals.countP isPending := by
  induction h with
  | refl => apply Nat.le_refl
  | head h _ ih =>
    simp only [List.mem_append, not_or, forall_and] at hm
    exact (ih hm.2).trans (h.countP_isPending_le hm.1)

/--
From one round of a loop to the next, a token is taken: without one, a loop is only left.
-/
theorem Steps.exists_shift_of_round (h : Steps g c moves d) (hne : c ≠ d) {goal goal' : Goal}
    {rest : List Goal} (hc : c.goals = goal :: rest) (hd : d.goals = goal' :: rest)
    (hgoal : goal.isLoop) (hgoal' : goal'.isLoop) : ∃ t, .shift t ∈ moves := by
  apply Classical.byContradiction
  intro hnone
  have hm : ∀ t, .shift t ∉ moves := fun t ht => hnone ⟨t, ht⟩
  cases h with
  | refl => exact hne rfl
  | head h hs =>
    simp only [List.mem_append, not_or, forall_and] at hm
    have hlast := hs.countP_isPending_le hm.2
    rw [hd, List.countP_cons_of_pos (isPending_of_isLoop hgoal')] at hlast
    cases h with
    | reduce clean =>
      obtain ⟨rfl, -⟩ := List.cons.inj hc
      cases hgoal
    | met clean ha hr =>
      obtain ⟨rfl, rfl⟩ := List.cons.inj hc
      rw [List.countP_append, countP_isPending_reduce] at hlast
      omega
    | shift clean ha => simp at hm

theorem Parse.EndsIn.length_steps {maxDepth : Nat} {tokens : List Token} {p : Parse}
    (h : p.EndsIn maxDepth tokens c) :
    p.steps.length = p.shifted.length + p.fired.length + 1 := by
  obtain ⟨last, hsteps, -⟩ := h.exists_last
  have hmoves := Move.length_eq (p.history.map Prod.fst)
  rw [List.length_map] at hmoves
  rw [hsteps, List.length_append, moveSteps, List.length_map, hmoves]
  rfl

namespace Session

/--
A parse is linear in the tokens that it takes, whatever the nesting limit is. It comes to an end; it
reduces at most eight times for each token that it takes, and is shown in at most nine steps for
each of them and a last one, all of which a log holds that has refused none; and each round of a
loop takes a token, a round being what leads from a loop back to it, with the same goals behind it.
-/
theorem parse_linear (tokens : List Token) (maxDepth : Nat) :
    let session := (ofTokens .standard tokens).withMaxDepth maxDepth
    let start := Config.start maxDepth (completed tokens)
    let p := session.finished
    let moves := p.history.map Prod.fst
    session.parse.1 = p.outcome
      ∧ (∃ c, Steps .standard start moves c ∧ Ends .standard maxDepth c p.ending)
      ∧ p.fired.length ≤ 8 * p.shifted.length
      ∧ p.steps.length ≤ 9 * p.shifted.length + 1
      ∧ (∀ log recorded, (session.withLog log).parse.2.log = some recorded →
        recorded.truncated = false → recorded.steps.toList = p.steps)
      ∧ ∀ before round after c d, moves = before ++ round ++ after →
        Steps .standard start before c → Steps .standard c round d → c ≠ d →
        ∀ goal goal' rest, c.goals = goal :: rest → d.goals = goal' :: rest →
          goal.isLoop → goal'.isLoop → ∃ t, .shift t ∈ round := by
  intro session start p moves
  obtain ⟨c, hc⟩ := Parse.exists_endsIn maxDepth (exists_eof_completed tokens)
  have hfired : p.fired.length ≤ 8 * p.shifted.length := hc.steps.length_rules_le
  refine ⟨rfl, ⟨c, hc.steps, hc.ends⟩, hfired, ?_, ?_, ?_⟩
  · have hsteps : p.steps.length = p.shifted.length + p.fired.length + 1 := hc.length_steps
    omega
  · intro log recorded hlog htruncated
    cases hlog
    exact StepLog.toList_pushAll_clear htruncated
  · intro before round after c d _ _ hround hne goal goal' rest hgoals hgoals' hgoal hgoal'
    exact hround.exists_shift_of_round hne hgoals hgoals' hgoal hgoal'

end Session

end StartEnd
