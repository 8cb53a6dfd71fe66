import StartEnd.Proofs.Parse.Deepen
import StartEnd.Proofs.Parse.Starts

/-!
This module contains the proof that the terminals which goals collect while they do without the
lookahead are exactly those that they would have taken, if nesting does not stop them.
-/

namespace StartEnd

namespace Symbol

theorem mem_all (s : Symbol) : s ∈ all := by
  cases s <;> decide

theorem mem_sorted {s : Symbol} {symbols : List Symbol} : s ∈ sorted symbols ↔ s ∈ symbols := by
  simp [sorted, mem_all]

theorem pairwise_all : all.Pairwise fun s u => s.id < u.id := by
  decide

theorem pairwise_sorted (symbols : List Symbol) :
    (sorted symbols).Pairwise fun s u => s.id < u.id := by
  unfold sorted
  apply pairwise_all.filter

end Symbol

namespace Goal

open Grammar

theorem answerFactor_of_mem (budget : Nat) {s : Symbol} (h : s ∈ expressionStarts) :
    ∃ first, answerFactor .standard budget s = .shift first := by
  simp only [expressionStarts, List.mem_cons, List.not_mem_nil, or_false] at h
  obtain rfl | rfl | rfl | rfl | rfl | rfl | rfl | rfl | rfl := h <;> exact ⟨_, rfl⟩

theorem answerStatements_of_mem (read budget : Nat) {s : Symbol} (h : s ∈ statementStarts) :
    ∃ first, answerStatements .standard read (budget + 1) s = .shift first := by
  simp only [statementStarts, List.mem_cons, List.not_mem_nil, or_false] at h
  obtain rfl | rfl | rfl | rfl | rfl | rfl := h <;> exact ⟨_, rfl⟩

theorem exists_shift_followedBy {a : Answer} (h : ∃ first, a = .shift first) (goals : List Goal) :
    ∃ first, a.followedBy goals = .shift first := by
  obtain ⟨first, h⟩ := h
  rw [h]
  exact ⟨_, rfl⟩

theorem exists_shift {goal : Goal} {s : Symbol} (h : s ∈ goal.starts) (hs : s ≠ .eof) :
    ∃ first, (goal.deepen 1).answer .standard s = .shift first := by
  cases goal with
  | take t =>
    obtain rfl : s = t := by simpa [starts] using h
    exact ⟨[], by simp [deepen, answer, hs]⟩
  | reduce r => simp [starts] at h
  | statements read budget => exact answerStatements_of_mem read budget h
  | namedStatement budget =>
    simp only [starts, List.mem_cons, List.not_mem_nil, or_false] at h
    obtain rfl | rfl := h <;> exact ⟨_, rfl⟩
  | elseBranch budget | moreParams read | moreArgs read budget | namedFactor budget | params =>
    obtain rfl := List.mem_singleton.mp h
    exact ⟨_, rfl⟩
  | type =>
    simp only [starts, typeStarts, List.mem_cons, List.not_mem_nil, or_false] at h
    obtain rfl | rfl | rfl | rfl := h <;> exact ⟨_, rfl⟩
  | args budget =>
    simp only [deepen, answer]
    rw [if_pos (by rwa [standard_first.2.1])]
    apply exists_shift_followedBy
    apply exists_shift_followedBy
    apply answerFactor_of_mem budget h
  | expression budget =>
    apply exists_shift_followedBy
    apply answerFactor_of_mem budget h
  | operand level budget =>
    apply exists_shift_followedBy
    apply answerFactor_of_mem _ h
  | operators level budget =>
    obtain ⟨⟨s, r⟩, hr, rfl⟩ := List.mem_map.mp h
    simp only [deepen, answer]
    rw [Level.lookup_operators.mpr hr]
    exact ⟨_, rfl⟩
  | signed budget => exact answerFactor_of_mem budget h

end Goal

namespace Run

open Goal

variable {goals : List Goal} {s : Symbol}

theorem settle_met {goal : Goal} {rules : List Rule} {unmet : List Symbol}
    (ha : goal.answer .standard s = .met rules unmet) (refused : List Symbol) :
    (settle .standard s (goal :: goals) refused).2
      =
    (settle .standard s goals (refused ++ unmet)).2 := by
  simp [settle, ha]

theorem settle_refused {goal : Goal} {unmet : List Symbol}
    (ha : goal.answer .standard s = .refuse unmet) (refused : List Symbol) :
    (settle .standard s (goal :: goals) refused).2 = .refuse (refused ++ unmet) := by
  simp [settle, ha]

theorem settle_shift {goal : Goal} {first : List Goal}
    (ha : goal.answer .standard s = .shift first) (refused : List Symbol) :
    (settle .standard s (goal :: goals) refused).2 = .shift (first ++ goals) := by
  simp [settle, ha]

/--
The goals that are left at the end of a program.
-/
def lastGoals : List Goal := [.take .eof, .reduce .program]

/--
The given terminals are those that goals take, if nesting does not stop them. All others are
refused, and the goals are met at the end of the input if it is among the terminals.
-/
structure Expects (goals : List Goal) (expected : List Symbol) : Prop where
  shift : ∀ s ∈ expected, s ≠ .eof → ∀ refused,
    ∃ next, (settle .standard s (goals.map (deepen 1)) refused).2 = .shift next
  refuse : ∀ s, s ∉ expected → ∀ refused, ∃ e, (settle .standard s goals refused).2 = .refuse e
  accept : .eof ∈ expected → ∀ refused, (settle .standard .eof goals refused).2 = .accept

theorem Expects.not_mem_of_refuse {expected e : List Symbol} (he : Expects goals expected)
    (hv : (settle .standard s goals []).2 = .refuse e) : s ∉ expected := by
  intro hmem
  by_cases hs : s = .eof
  · subst hs
    rw [he.accept hmem []] at hv
    cases hv
  · obtain ⟨next, hshift⟩ := he.shift s hmem hs []
    rw [settle_deepen 1 (by simp [hv]), hv] at hshift
    cases hshift

theorem expects_lastGoals : Expects lastGoals [.eof] where
  shift := by
    intro s hs hne
    exact absurd (List.mem_singleton.mp hs) hne
  refuse := by
    intro s hs refused
    have hs := List.mem_singleton.not.mp hs
    simp [lastGoals, settle, answer, hs]
  accept := by
    intro _ refused
    simp [lastGoals, settle, answer]

theorem Expects.met {goal : Goal} (h : .eof ∉ goal.starts) {rules : List Rule}
    (ho : goal.otherwise = .met rules goal.starts) {expected : List Symbol}
    (he : Expects goals expected) : Expects (goal :: goals) (goal.starts ++ expected) where
  shift := by
    intro s hs hne refused
    by_cases hmem : s ∈ goal.starts
    · obtain ⟨first, ha⟩ := exists_shift hmem hne
      exact ⟨_, settle_shift ha refused⟩
    · have ha : goal.answer .standard s = .met rules goal.starts := by
        rw [answer_of_not_mem hmem, ho]
      have hdeep : (goal.deepen 1).answer .standard s = .met rules goal.starts := by
        rw [answer_deepen 1 (by rw [ha]; simp), ha]
        rfl
      rw [List.map_cons, settle_met hdeep]
      apply he.shift s _ hne
      simpa [hmem] using hs
  refuse := by
    intro s hs refused
    rw [List.mem_append, not_or] at hs
    rw [settle_met ((answer_of_not_mem hs.1).trans ho)]
    apply he.refuse s hs.2
  accept := by
    intro heof refused
    rw [settle_met ((answer_of_not_mem h).trans ho)]
    apply he.accept
    simpa [h] using heof

theorem Expects.refused {goal : Goal} (h : .eof ∉ goal.starts)
    (ho : goal.otherwise = .refuse goal.starts) (goals : List Goal) :
    Expects (goal :: goals) goal.starts where
  shift := by
    intro s hs hne refused
    obtain ⟨first, ha⟩ := exists_shift hs hne
    exact ⟨_, settle_shift ha refused⟩
  refuse := by
    intro s hs refused
    exact ⟨_, settle_refused ((answer_of_not_mem hs).trans ho) refused⟩
  accept := by
    intro heof
    exact absurd heof h

theorem answer_eq_otherwise {goal : Goal} (h : .eof ∉ goal.starts)
    (ha : (∀ first, goal.answer .standard s ≠ .shift first) ∧ goal.answer .standard s ≠ .tooDeep) :
    goal.answer .standard s = goal.otherwise := by
  apply answer_of_not_mem
  intro hs
  have hne : s ≠ .eof := by
    intro he
    rw [he] at hs
    apply h hs
  obtain ⟨first, hfirst⟩ := exists_shift hs hne
  rw [answer_deepen 1 ha.2] at hfirst
  cases hanswer : goal.answer .standard s with
  | shift first => exact ha.1 first hanswer
  | _ => simp [hanswer, Answer.deepen] at hfirst

/--
The terminals that are reported at a lookahead are exactly those that the goals expect.
-/
theorem expects_of_refuse {refused e : List Symbol} (h : ∀ goal ∈ goals, .eof ∉ goal.starts)
    (ht : (settle .standard s (goals ++ lastGoals) refused).2 = .refuse e) :
    ∃ expected, e = refused ++ expected ∧ Expects (goals ++ lastGoals) expected
      ∧ ∀ u ∈ expected, u = .eof ∨ ∃ goal ∈ goals, u ∈ goal.starts := by
  induction goals generalizing refused with
  | nil =>
    refine ⟨[.eof], ?_, expects_lastGoals, by simp⟩
    by_cases hs : s = .eof
    · simp [lastGoals, settle, answer, hs] at ht
    · simpa [lastGoals, settle, answer, hs, eq_comm] using ht
  | cons goal goals ih =>
    have hgoal := h goal (by simp)
    rw [List.cons_append] at ht ⊢
    cases ha : goal.answer .standard s with
    | met rules unmet =>
      have ho := answer_eq_otherwise hgoal (s := s) (by simp [ha])
      rw [ha] at ho
      obtain rfl := eq_starts_of_otherwise (.inl ⟨rules, ho.symm⟩)
      rw [settle_met ha] at ht
      obtain ⟨expected, hexpected, hexpects, hmem⟩ := ih (fun goal hg => h goal (by simp [hg])) ht
      refine ⟨goal.starts ++ expected, by simp [hexpected], hexpects.met hgoal ho.symm, ?_⟩
      -- What a goal that is met refuses stays among what is expected.
      intro u hu
      cases List.mem_append.mp hu with
      | inl hu => exact .inr ⟨goal, by simp, hu⟩
      | inr hu =>
        apply (hmem u hu).imp_right
        rintro ⟨goal, hg, hu⟩
        exact ⟨goal, by simp [hg], hu⟩
    | refuse unmet =>
      have ho := answer_eq_otherwise hgoal (s := s) (by simp [ha])
      rw [ha] at ho
      obtain rfl := eq_starts_of_otherwise (.inr ho.symm)
      rw [settle_refused ha] at ht
      refine ⟨goal.starts, by simpa [eq_comm] using ht, .refused hgoal ho.symm _, ?_⟩
      intro u hu
      exact .inr ⟨goal, by simp, hu⟩
    | shift first =>
      rw [settle_shift ha] at ht
      cases ht
    | tooDeep => simp [settle, ha] at ht

end Run

end StartEnd
