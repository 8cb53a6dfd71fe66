import Mathlib.Order.Nat
import StartEnd.Proofs.Parse.Budget
import StartEnd.Proofs.Session
import StartEnd.Proofs.Trace.Replay
import StartEnd.Proofs.Viability

/-!
This module contains the proof that the nesting limit of a session is a threshold: all limits above
it give the same parse, and all limits below it stop the parse, the earlier the smaller they are.
-/

namespace StartEnd

/--
Whether a parse is stopped by the nesting limit.
-/
def Ending.AtLimit : Ending → Prop
  | .halt d => d.kind = .nestingLimit
  | .accept _ => False

namespace Run

variable {g : Grammar}

theorem EndsAt.of_atLimit {maxDepth : Nat} {goals : List Goal} {t : Token} {e : Ending}
    (h : EndsAt g maxDepth goals t e) (he : e.AtLimit) :
    (settle g t.symbol goals []).2 = .tooDeep := by
  unfold EndsAt at h
  split at h
  · rw [h] at he
    cases he
  · generalize (settle g t.symbol goals []).2 = v at h ⊢
    cases v with
    | tooDeep => rfl
    | shift goals => cases h
    | refuse expected | accept =>
      cases h
      cases he

variable (k : Nat)

theorem settle_rules_deepen {s : Symbol} {goals : List Goal} {refused : List Symbol}
    (h : (settle g s goals refused).2 ≠ .tooDeep) :
    (settle g s (goals.map (Goal.deepen k)) refused).1 = (settle g s goals refused).1 := by
  induction goals generalizing refused with
  | nil => rfl
  | cons goal goals ih =>
    have hne : goal.answer g s ≠ .tooDeep := by
      intro ha
      simp [settle, ha] at h
    have ha := Goal.answer_deepen k hne
    rw [List.map_cons]
    unfold settle at h ⊢
    rw [ha]
    cases hanswer : goal.answer g s with
    | met rules unmet =>
      rw [hanswer] at h
      exact congrArg (rules ++ ·) (ih h)
    | shift first => rfl
    | refuse unmet => rfl
    | tooDeep => exact absurd hanswer hne

theorem isPrefix_settle_rules (s : Symbol) (goals : List Goal) (refused : List Symbol) :
    (settle g s goals refused).1 <+: (settle g s (goals.map (Goal.deepen k)) refused).1 := by
  induction goals generalizing refused with
  | nil => apply List.prefix_refl
  | cons goal goals ih =>
    rw [List.map_cons]
    unfold settle
    cases ha : goal.answer g s with
    | met rules unmet =>
      have hne : goal.answer g s ≠ .tooDeep := by simp [ha]
      rw [Goal.answer_deepen k hne, ha]
      exact (List.prefix_append_right_inj rules).mpr (ih _)
    | _ => apply List.nil_prefix

variable (maxDepth : Nat)

/--
What the goals reduce in front of the first token are the first moves of a run.
-/
theorem isPrefix_reductions_moves {t : Token} (clean : t.fault? = none) (goals : List Goal)
    (last : Location) (ts : List Token) :
    (settle g t.symbol goals []).1.map (Move.reduce · t.location)
      <+: (ofGoals g maxDepth goals last (t :: ts)).moves := by
  cases hv : (settle g t.symbol goals []).2 with
  | shift next =>
    rw [ofGoals_shift maxDepth clean hv]
    apply List.prefix_append
  | _ =>
    refine ⟨[], ?_⟩
    rw [ofGoals_ends maxDepth clean (congrArg (Verdict.ending? maxDepth t) hv), List.append_nil]

/--
With larger budgets, a run begins with the same moves, and it is the same run unless the nesting limit
has stopped it.
-/
theorem ofGoals_deepen (goals : List Goal) (last : Location) {tokens : List Token}
    (heof : ∃ t ∈ tokens, t.symbol = .eof) :
    let run := ofGoals g maxDepth goals last tokens
    let deeper := ofGoals g (maxDepth + k) (goals.map (Goal.deepen k)) last tokens
    run.moves <+: deeper.moves ∧ (¬ run.ending.AtLimit → deeper = run) := by
  induction tokens generalizing goals last with
  | nil => simp at heof
  | cons t ts ih =>
    cases hf : t.fault? with
    | some complaint =>
      rw [ofGoals_badToken _ hf, ofGoals_badToken _ hf]
      exact ⟨List.prefix_refl _, fun _ => rfl⟩
    | none =>
      have hdeep := @settle_deepen g k t.symbol goals []
      have hrules := @settle_rules_deepen g k t.symbol goals []
      cases hv : (settle g t.symbol goals []).2 with
      | shift next =>
        have hrest : ∃ u ∈ ts, u.symbol = .eof := by
          simpa [ne_eof_of_shift hv] using heof
        obtain ⟨hmoves, hsame⟩ := ih next t.location hrest
        rw [hv] at hdeep
        rw [ofGoals_shift _ hf hv, ofGoals_shift _ hf (hdeep (by simp)), hrules (by simp [hv])]
        refine ⟨?_, ?_⟩
        · exact (List.prefix_append_right_inj _).mpr (List.cons_prefix_cons.mpr ⟨rfl, hmoves⟩)
        · intro h
          simp only [hsame h]
      | tooDeep =>
        have hending := congrArg (Verdict.ending? maxDepth t) hv
        rw [ofGoals_ends _ hf hending]
        refine ⟨?_, fun h => absurd rfl h⟩
        apply List.IsPrefix.trans _ (isPrefix_reductions_moves _ hf _ _ _)
        exact (isPrefix_settle_rules k t.symbol goals []).map _
      | _ =>
        rw [hv] at hdeep
        rw [ofGoals_ends _ hf (congrArg (Verdict.ending? maxDepth t) hv),
          ofGoals_ends _ hf (congrArg (Verdict.ending? _ t) (hdeep (by simp))), hrules (by simp [hv])]
        exact ⟨List.prefix_refl _, fun _ => rfl⟩

theorem ofTokens_deepen {tokens : List Token} (heof : ∃ t ∈ tokens, t.symbol = .eof) :
    let run := ofTokens g maxDepth tokens
    let deeper := ofTokens g (maxDepth + k) tokens
    run.moves <+: deeper.moves ∧ (¬ run.ending.AtLimit → deeper = run) :=
  ofGoals_deepen k maxDepth (Goal.program maxDepth) .start heof

end Run

namespace Parse

variable {g : Grammar}

theorem isPrefix_history {moves moves' : List Move} (h : moves <+: moves') (e e' : Ending)
    (stack : Stack) : (replay g e stack moves).history <+: (replay g e' stack moves').history := by
  induction moves generalizing stack moves' with
  | nil => apply List.nil_prefix
  | cons move moves ih =>
    cases moves' with
    | nil => simp at h
    | cons move' moves' =>
      obtain ⟨rfl, hmoves⟩ := List.cons_prefix_cons.mp h
      unfold replay
      cases stack.apply g move with
      | error d => apply List.prefix_refl
      | ok next => exact List.cons_prefix_cons.mpr ⟨rfl, ih hmoves next⟩

theorem steps_of_atLimit {p : Parse} (h : p.ending.AtLimit) :
    ∃ d, p.outcome = .error [d] ∧ d.kind = .nestingLimit
      ∧ p.steps = p.moveSteps ++ [stepOfHalt d p.stack] := by
  cases he : p.ending with
  | accept lookahead => simp [he, Ending.AtLimit] at h
  | halt d =>
    rw [he] at h
    refine ⟨d, ?_, h, ?_⟩
    · simp [outcome, he]
    · simp [steps, moveSteps, lastSteps, he]

variable {maxDepth : Nat} {tokens : List Token} (heof : ∃ t ∈ tokens, t.symbol = .eof)
include heof

theorem ofTokens_deepen (k : Nat) :
    let p := ofTokens .standard maxDepth tokens
    let deeper := ofTokens .standard (maxDepth + k) tokens
    p.history <+: deeper.history ∧ (¬ p.ending.AtLimit → deeper = p) := by
  intro p deeper
  obtain ⟨hmoves, hsame⟩ := Run.ofTokens_deepen (g := .standard) k maxDepth heof
  refine ⟨isPrefix_history hmoves _ _ [], ?_⟩
  intro h
  obtain ⟨c, hc⟩ := exists_endsIn maxDepth heof
  have hending : (Run.ofTokens .standard maxDepth tokens).ending = p.ending :=
    congrArg Run.ending hc.run_eq
  rw [hending] at hsame
  simp only [p, deeper, ofTokens, hsame h]

theorem outcome_ne_nestingLimit (h : ¬ (ofTokens .standard maxDepth tokens).ending.AtLimit)
    {ds : List Diagnostic} (he : (ofTokens .standard maxDepth tokens).outcome = .error ds) :
    ∀ d ∈ ds, d.kind ≠ .nestingLimit := by
  obtain ⟨c, hc⟩ := exists_endsIn maxDepth heof
  obtain ⟨d, rfl, hd⟩ := hc.of_error he
  rw [hd] at h
  simpa [Ending.AtLimit] using h

end Parse

namespace Session

theorem not_atLimit_of_length_le {tokens : List Token} {maxDepth : Nat} (h : tokens.length ≤ maxDepth) :
    ¬ (Parse.ofTokens .standard maxDepth (completed tokens)).ending.AtLimit := by
  obtain ⟨t, ts, next, htokens, hnext, hends⟩ := exists_advance maxDepth tokens
  intro hlimit
  have hlt := Run.lt_length_of_tooDeep hnext (hends.of_atLimit hlimit)
  have hlen := length_completed_le tokens
  rw [htokens] at hlen
  simp at hlen
  omega

open Classical in
/--
The nesting limit only decides whether a parse is stopped. There is a threshold, which the number of
tokens bounds: all limits from there on give the same outcome and the same log, and all smaller ones
stop the parse because of the nesting. A smaller limit stops it earlier, behind the same steps.
-/
theorem parse_depth_threshold (tokens : List Token) :
    let session (maxDepth : Nat) (log : Option StepLog) : Session :=
      { ofTokens .standard tokens with maxDepth, log }
    let parse (maxDepth : Nat) := Parse.ofTokens .standard maxDepth (completed tokens)
    (∀ maxDepth log recorded, (session maxDepth (some log)).parse.2.log = some recorded →
      recorded.truncated = false → recorded.steps.toList = (parse maxDepth).steps)
    ∧ ∃ threshold ≤ tokens.length,
      (∀ maxDepth ≥ threshold, (parse maxDepth).steps = (parse threshold).steps ∧ ∀ log,
        (session maxDepth log).parse.1 = (session threshold log).parse.1
          ∧ (session maxDepth log).parse.2.log = (session threshold log).parse.2.log
          ∧ ∀ ds, (session maxDepth log).parse.1 = .error ds → ∀ d ∈ ds, d.kind ≠ .nestingLimit)
      ∧ ∀ maxDepth < threshold,
        (∀ log, ∃ d, (session maxDepth log).parse.1 = .error [d] ∧ d.kind = .nestingLimit)
        ∧ ∃ before halt, (parse maxDepth).steps = before ++ [halt]
          ∧ halt.action = .halt .nestingLimit
          ∧ ∀ deeper > maxDepth,
            (parse maxDepth).shifted.length ≤ (parse deeper).shifted.length
              ∧ before <+: (parse deeper).steps := by
  intro session parse
  have heof := exists_eof_completed tokens
  refine ⟨?_, ?_⟩
  · rintro maxDepth log recorded hlog htruncated
    cases hlog
    exact StepLog.toList_pushAll_clear htruncated
  have hexists : ∃ maxDepth, ¬ (parse maxDepth).ending.AtLimit :=
    ⟨tokens.length, not_atLimit_of_length_le (Nat.le_refl _)⟩
  refine ⟨Nat.find hexists, Nat.find_min' hexists (not_atLimit_of_length_le (Nat.le_refl _)), ?_, ?_⟩
  · intro maxDepth hle
    have hsame : parse maxDepth = parse (Nat.find hexists) := by
      have := (Parse.ofTokens_deepen heof (maxDepth - Nat.find hexists)).2 (Nat.find_spec hexists)
      rwa [Nat.add_sub_cancel' hle] at this
    refine ⟨congrArg Parse.steps hsame, fun log => ?_⟩
    have hfinished : (session maxDepth log).finished = (session (Nat.find hexists) log).finished :=
      hsame
    obtain ⟨houtcome, hlog⟩ := parse_congr hfinished rfl
    refine ⟨houtcome, hlog, fun ds he => ?_⟩
    rw [houtcome] at he
    exact Parse.outcome_ne_nestingLimit heof (Nat.find_spec hexists) he
  · intro maxDepth hlt
    have hlimit := Classical.not_not.mp (Nat.find_min hexists hlt)
    obtain ⟨d, houtcome, hkind, hsteps⟩ := Parse.steps_of_atLimit hlimit
    refine ⟨fun log => ⟨d, houtcome, hkind⟩, _, _, hsteps, congrArg TraceAction.halt hkind, ?_⟩
    intro deeper hdeeper
    have hhistory : (parse maxDepth).history <+: (parse deeper).history := by
      have := (@Parse.ofTokens_deepen maxDepth _ heof (deeper - maxDepth)).1
      rwa [Nat.add_sub_cancel' (Nat.le_of_lt hdeeper)] at this
    refine ⟨((hhistory.map Prod.fst).filterMap Move.token?).length_le, ?_⟩
    exact (hhistory.map _).trans (List.prefix_append ..)

end Session

end StartEnd
