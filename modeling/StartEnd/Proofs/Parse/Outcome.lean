import StartEnd.Proofs.Parse.Moves
import StartEnd.Proofs.Parse.Shown

/-!
This module contains what is known of every finished parse: the state in which its steps end, and
the stack that is left, whose entries show the trees of that state.
-/

namespace StartEnd

/--
A finished parse of tokens and the state in which its steps end.
-/
structure Parse.EndsIn (maxDepth : Nat) (tokens : List Token) (p : Parse) (c : Config) : Prop where
  run_eq : Run.ofTokens .standard maxDepth tokens = ⟨p.history.map Prod.fst, p.ending⟩
  eq_replay : p = Parse.replay .standard p.ending [] (p.history.map Prod.fst)
  steps : Steps .standard (.start maxDepth tokens) (p.history.map Prod.fst) c
  ends : Ends .standard maxDepth c p.ending
  sound : c.Sound maxDepth tokens
  shows : p.stack.Shows tokens c.forest
  replayed : (p.history.map Prod.fst).foldlM (Stack.apply .standard) [] = .ok p.stack

namespace Parse

variable {maxDepth : Nat} {tokens : List Token} {c : Config}

theorem exists_endsIn (maxDepth : Nat) {tokens : List Token} (heof : ∃ t ∈ tokens, t.symbol = .eof) :
    ∃ c, (ofTokens .standard maxDepth tokens).EndsIn maxDepth tokens c := by
  obtain ⟨c, hsteps, hends⟩ := Run.ofTokens_steps (g := .standard) maxDepth heof
  have hsound := hsteps.sound (Config.sound_start maxDepth tokens)
  obtain ⟨last, hlast, hshows⟩ := hsteps.shows (Config.sound_start maxDepth tokens) .nil
  obtain ⟨hending, hstack, hhistory⟩ := replay_of_ok (Run.ofTokens .standard maxDepth tokens).ending hlast
  refine ⟨c, ?_, ?_, ?_, ?_, hsound, ?_, ?_⟩
  · unfold ofTokens
    rw [hhistory, hending]
  · unfold ofTokens
    rw [hhistory, hending]
  · unfold ofTokens
    rwa [hhistory]
  · unfold ofTokens
    rwa [hending]
  · unfold ofTokens
    rwa [hstack]
  · unfold ofTokens
    rw [hhistory, hstack]
    exact hlast

theorem EndsIn.of_accept {p : Parse} (h : p.EndsIn maxDepth tokens c) {lookahead : Location}
    (ha : p.ending = .accept lookahead) :
    ∃ T prog t ts, c.goals = [] ∧ c.forest = [T] ∧ c.rest = t :: ts ∧ T.Fits .program maxDepth
      ∧ tokens = T.yield ++ t :: ts ∧ t.symbol = .eof ∧ t.location = lookahead
      ∧ T.program? = some prog ∧ p.outcome = .ok prog
      ∧ p.stack.map (fun e => (e.symbol, e.node)) = [(.program, .program prog)] := by
  have hends := h.ends
  rw [ha] at hends
  have hsound := h.sound
  have hshows := h.shows
  cases hends with
  | accept clean =>
    rename_i refused forest t ts
    obtain ⟨T, rfl, hT⟩ := hsound.ensures
    obtain ⟨prog, hprog, hresult, hstack⟩ := hshows.program hT.symbol_eq t.location
    refine ⟨T, prog, t, ts, rfl, rfl, rfl, hT, ?_, ?_, rfl, hprog, ?_, hstack⟩
    · simpa [Forest.tokens] using hsound.tokens_eq.symm
    · obtain ⟨goals, hg⟩ | ⟨u, us, hu, heof⟩ := hsound.last
      · simp at hg
      · obtain ⟨rfl, rfl⟩ := List.cons.inj hu
        exact heof
    · simp [outcome, ha, hresult, Except.mapError]

theorem EndsIn.of_ok {p : Parse} (h : p.EndsIn maxDepth tokens c) {prog : Program}
    (hok : p.outcome = .ok prog) :
    ∃ (T : Tree) (t : Token) (ts : List Token), T.Fits .program maxDepth ∧ tokens = T.yield ++ t :: ts ∧ t.symbol = .eof
      ∧ T.program? = some prog ∧ ∀ u ∈ T.yield, u.fault? = none ∧ u.symbol ≠ .eof := by
  cases hending : p.ending with
  | halt d => simp [outcome, hending] at hok
  | accept lookahead =>
    obtain ⟨T, prog', t, ts, -, hforest, -, hfits, htokens, heof, -, hprog, hok', -⟩ :=
      h.of_accept hending
    obtain rfl : prog' = prog := by simpa [hok'] using hok
    have hclean := h.sound.clean
    rw [hforest] at hclean
    exact ⟨T, t, ts, hfits, htokens, heof, hprog, by simpa [Forest.tokens] using hclean⟩

theorem EndsIn.of_error {p : Parse} (h : p.EndsIn maxDepth tokens c) {ds : List Diagnostic}
    (he : p.outcome = .error ds) : ∃ d, ds = [d] ∧ p.ending = .halt d := by
  cases hending : p.ending with
  | accept lookahead =>
    obtain ⟨T, prog, t, ts, -, -, -, -, -, -, -, -, hok, -⟩ := h.of_accept hending
    rw [hok] at he
    cases he
  | halt d =>
    unfold outcome at he
    rw [hending] at he
    cases he
    exact ⟨d, rfl, rfl⟩

end Parse

end StartEnd
