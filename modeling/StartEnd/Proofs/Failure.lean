import StartEnd.Proofs.Acceptance

/-!
This module contains the proof that a session fails in one way only: with a single diagnostic at the
first token that has not been taken. No reduction is ever refused by the stack.
-/

namespace StartEnd

theorem Ends.of_halt {g : Grammar} {maxDepth : Nat} {c : Config} {d : Diagnostic}
    (h : Ends g maxDepth c (.halt d)) :
    ∃ t ts, c.rest = t :: ts ∧ d.token = some t ∧ d.location = t.location
      ∧ d.kind ∈ [.tokenError, .parseError, .nestingLimit]
      ∧ (d.kind = .tokenError ↔ t.symbol = .error ∨ ¬ t.wellFormed) := by
  have key {t : Token} (h : t.fault? = none) : ¬ (t.symbol = .error ∨ ¬ t.wellFormed) := by
    have := Token.fault?_eq_none.mp h
    simp [this]
  cases h with
  | badToken h =>
    rename_i t ts complaint
    have : ¬ t.fault? = none := by simp [h]
    rw [Token.fault?_eq_none] at this
    refine ⟨t, ts, rfl, rfl, rfl, by simp [Diagnostic.badToken], ?_⟩
    simp only [Diagnostic.badToken, true_iff]
    grind
  | unexpected clean ha =>
    refine ⟨_, _, rfl, rfl, rfl, ?_, ?_⟩
    · simp [Diagnostic.unexpected, Diagnostic.expecting]
    · simpa [Diagnostic.unexpected, Diagnostic.expecting] using key clean
  | tooDeep clean ha =>
    refine ⟨_, _, rfl, rfl, rfl, ?_, ?_⟩
    · simp [Diagnostic.tooDeep]
    · simpa [Diagnostic.tooDeep] using key clean

/--
The tokens that a parse has taken.
-/
def Parse.shifted (p : Parse) : List Token := (p.history.map Prod.fst).filterMap Move.token?

theorem Parse.EndsIn.shifted_eq {maxDepth : Nat} {tokens : List Token} {p : Parse} {c : Config}
    (h : p.EndsIn maxDepth tokens c) : p.shifted = c.forest.tokens := by
  rw [h.steps.shifted]
  rfl

theorem exists_of_foldlM_append {α β ε : Type} {f : β → α → Except ε β} {first rest : List α}
    {start last : β} (h : (first ++ rest).foldlM f start = .ok last) :
    ∃ mid, first.foldlM f start = .ok mid ∧ rest.foldlM f mid = .ok last := by
  rw [List.foldlM_append] at h
  cases hm : first.foldlM f start with
  | error e => simp [hm, bind, Except.bind] at h
  | ok mid => exact ⟨mid, rfl, by simpa [hm, bind, Except.bind] using h⟩

namespace Session

/--
A session that yields no program reports a single diagnostic, about the first token behind those
that have been taken, and never about its own stack: each reduction finds the right-hand side of its
rule on the stack with children of the right form, and a parse that accepts leaves a single program.
-/
theorem parse_eq_error (tokens : List Token) (maxDepth : Nat) (log : Option StepLog) :
    let session : Session := { ofTokens .standard tokens with maxDepth, log }
    let run := Run.ofTokens .standard maxDepth (completed tokens)
    let parse := Parse.ofTokens .standard maxDepth (completed tokens)
    let taken := parse.shifted.length
    (∀ ds, session.parse.1 = .error ds →
      ∃ d t, ds = [d] ∧ d.kind ∈ [.tokenError, .parseError, .nestingLimit]
        ∧ parse.shifted = (completed tokens).take taken
        ∧ (completed tokens)[taken]? = some t ∧ d.token = some t ∧ d.location = t.location
        ∧ (∀ u ∈ parse.shifted, u.symbol ≠ .error ∧ u.wellFormed)
        ∧ (d.kind = .tokenError ↔ t.symbol = .error ∨ ¬ t.wellFormed))
    ∧ parse.history.map Prod.fst = run.moves
    ∧ (∀ before r lookahead after, run.moves = before ++ .reduce r lookahead :: after →
      ∃ stack : Stack, before.foldlM (Stack.apply .standard) [] = .ok stack
        ∧ (stack.take r.arity).reverse.map Entry.symbol = r.rhs
        ∧ ∃ node, r.reduce ((stack.take r.arity).reverse.map Entry.node) = .ok node)
    ∧ ∀ lookahead, run.ending = .accept lookahead →
      ∃ p, parse.stack.map (fun e => (e.symbol, e.node)) = [(.program, .program p)] := by
  intro session run parse taken
  obtain ⟨c, hc⟩ := Parse.exists_endsIn maxDepth (exists_eof_completed tokens)
  have hmoves : parse.history.map Prod.fst = run.moves := (congrArg Run.moves hc.run_eq).symm
  have hending : parse.ending = run.ending := (congrArg Run.ending hc.run_eq).symm
  refine ⟨?_, hmoves, ?_, ?_⟩
  · intro ds h
    change parse.outcome = .error ds at h
    obtain ⟨d, rfl, he⟩ := hc.of_error h
    have hends := hc.ends
    rw [he] at hends
    obtain ⟨t, ts, hrest, htoken, hlocation, hkind, htokenError⟩ := hends.of_halt
    have hshifted : parse.shifted ++ t :: ts = completed tokens := by
      rw [hc.shifted_eq, ← hrest]
      apply hc.sound.tokens_eq
    refine ⟨d, t, rfl, hkind, ?_, ?_, htoken, hlocation, ?_, htokenError⟩
    · rw [← hshifted]
      exact (List.take_left ..).symm
    · rw [← hshifted]
      simp [taken, parse]
    · intro u hu
      rw [hc.shifted_eq] at hu
      apply Token.fault?_eq_none.mp (hc.sound.clean u hu).1
  · intro before r lookahead after h
    have hreplayed := hc.replayed
    rw [hmoves, h] at hreplayed
    obtain ⟨stack, hstack, hrest⟩ := exists_of_foldlM_append hreplayed
    refine ⟨stack, hstack, ?_⟩
    cases hreduce : stack.reduce .standard r lookahead with
    | error e => simp [Stack.apply, hreduce, bind, Except.bind] at hrest
    | ok next => exact Stack.reduce_eq_ok hreduce
  · intro lookahead h
    rw [← hending] at h
    obtain ⟨T, prog, t, ts, -, -, -, -, -, -, -, -, -, hstack⟩ := hc.of_accept h
    exact ⟨prog, hstack⟩

end Session

end StartEnd
