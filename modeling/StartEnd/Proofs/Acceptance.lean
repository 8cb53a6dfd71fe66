import Mathlib.Data.List.TakeWhile
import StartEnd.Proofs.Parse.Outcome
import StartEnd.Proofs.Parse.ReadStatement
import StartEnd.Session

/-!
This module contains the proof that a session accepts exactly the programs of the grammar, up to the
nesting that it allows, and that it yields the program that is read off the derivation.
-/

namespace StartEnd

namespace Session

/--
The tokens in front of the first one that ends the input.
-/
def input (tokens : List Token) : List Token := tokens.takeWhile fun t => t.symbol ≠ .eof

theorem exists_eof_of_mem {tokens : List Token} (h : ∃ t ∈ tokens, t.symbol = .eof) :
    ∃ e rest, tokens = input tokens ++ e :: rest ∧ e.symbol = .eof := by
  induction tokens with
  | nil => simp at h
  | cons t ts ih =>
    by_cases ht : t.symbol = .eof
    · exact ⟨t, ts, by simp [input, ht], ht⟩
    · obtain ⟨e, rest, hts, he⟩ := ih (by simpa [ht] using h)
      refine ⟨e, rest, ?_, he⟩
      rw [input, List.takeWhile_cons_of_pos (by simpa using ht), List.cons_append]
      exact congrArg (t :: ·) hts

theorem ne_eof_of_mem_input {tokens : List Token} {t : Token} (h : t ∈ input tokens) :
    t.symbol ≠ .eof := by
  simpa using List.mem_takeWhile_imp h

theorem input_append {w : List Token} (hw : ∀ t ∈ w, t.symbol ≠ .eof) (rest : List Token) :
    input (w ++ rest) = w ++ input rest := by
  unfold input
  rw [List.takeWhile_append_of_pos (by simpa using hw)]

theorem input_eq_self {w : List Token} (hw : ∀ t ∈ w, t.symbol ≠ .eof) : input w = w := by
  have h := input_append hw []
  rwa [List.append_nil, show input [] = [] from rfl, List.append_nil] at h

theorem input_append_eof {w : List Token} (hw : ∀ t ∈ w, t.symbol ≠ .eof) {e : Token}
    (he : e.symbol = .eof) (rest : List Token) : input (w ++ e :: rest) = w := by
  rw [input_append hw]
  simp [input, he]

theorem completed_eq (tokens : List Token) :
    ∃ e rest, completed tokens = input tokens ++ e :: rest ∧ e.symbol = .eof := by
  unfold completed
  by_cases h : ∃ t ∈ tokens, t.symbol = .eof
  · obtain ⟨e, rest, htokens, he⟩ := exists_eof_of_mem h
    split
    · next hlast =>
      rw [List.getLast?_eq_none_iff.mp hlast] at h
      simp at h
    · next last hlast =>
      split
      · exact ⟨e, rest, htokens, he⟩
      · refine ⟨e, rest ++ [.eof last.location], ?_, he⟩
        rw [← List.cons_append, ← List.append_assoc, ← htokens]
  · rw [input_eq_self (by simpa using h)]
    split
    · next hlast => exact ⟨_, [], by rw [List.getLast?_eq_none_iff.mp hlast]; rfl, rfl⟩
    · next last hlast =>
      have hne : last.symbol ≠ .eof := fun heof => h ⟨last, List.mem_of_getLast? hlast, heof⟩
      rw [if_neg hne]
      exact ⟨.eof last.location, [], rfl, rfl⟩

theorem input_completed (tokens : List Token) : input (completed tokens) = input tokens := by
  obtain ⟨e, rest, h, he⟩ := completed_eq tokens
  rw [h, input_append_eof (fun t => ne_eof_of_mem_input) he]

theorem exists_eof_completed (tokens : List Token) :
    ∃ t ∈ completed tokens, t.symbol = .eof := by
  obtain ⟨e, rest, h, he⟩ := completed_eq tokens
  exact ⟨e, by simp [h], he⟩

end Session

theorem Token.fault?_eq_none_of_eof {t : Token} (h : t.symbol = .eof) : t.fault? = none := by
  rw [fault?_eq_none]
  refine ⟨by simp [h], ?_⟩
  unfold wellFormed
  rw [h]
  rfl

theorem Tree.Derives.exists_steps {T : Tree} {w : List Token} (h : T.Derives .program w)
    (clean : ∀ t ∈ w, t.fault? = none) {maxDepth : Nat} (hd : T.nesting ≤ maxDepth) {e : Token}
    (he : e.symbol = .eof) (rest : List Token) :
    ∃ moves refused, Steps .standard (.start maxDepth (w ++ e :: rest)) moves
        ⟨[], refused, [T], e :: rest⟩
      ∧ Run.ofTokens .standard maxDepth (w ++ e :: rest) = ⟨moves, .accept e.location⟩ := by
  have hclean := Token.fault?_eq_none_of_eof he
  have hreaches := h.valid.reaches_program h.symbol_eq hd he
  rw [h.yield_eq] at hreaches
  have hall : ∀ t ∈ w ++ [e], t.fault? = none := by
    intro t ht
    obtain ht | ht := List.mem_append.mp ht
    · apply clean t ht
    · rwa [List.mem_singleton.mp ht]
  obtain ⟨moves, refused, hsteps⟩ := hreaches hall []
  have hsteps := hsteps.append_rest rest
  simp only [List.append_assoc, List.singleton_append] at hsteps
  refine ⟨moves, refused, hsteps, ?_⟩
  exact Run.ofTokens_eq_of_steps maxDepth ⟨e, by simp, he⟩ hsteps (.accept hclean)

theorem Tree.Derives.unique {T T' : Tree} {w : List Token} (h : T.Derives .program w)
    (h' : T'.Derives .program w) (clean : ∀ t ∈ w, t.fault? = none) : T = T' := by
  let e := Token.eof .start
  have he : e.symbol = .eof := rfl
  obtain ⟨moves, refused, hs, -⟩ := h.exists_steps clean (Nat.le_max_left _ T'.nesting) he []
  obtain ⟨moves', refused', hs', -⟩ := h'.exists_steps clean (Nat.le_max_right T.nesting _) he []
  have hends (refused : List Symbol) (forest : Forest) :
      Ends .standard (max T.nesting T'.nesting) ⟨[], refused, forest, [e]⟩ (.accept e.location) :=
    .accept (Token.fault?_eq_none_of_eof he)
  obtain ⟨-, hc, -⟩ := hs.unique (hends _ _) hs' (hends _ _)
  simpa using congrArg Config.forest hc

namespace Session

variable {tokens : List Token} {maxDepth : Nat}

/--
A session yields exactly the programs of the grammar. Its outcome is a program if and only if all
tokens of the input may reach the grammar and the input has a derivation that is not nested too
deeply; and then there is only one derivation, which says what the program is.
-/
theorem parse_eq_ok_iff (tokens : List Token) (maxDepth : Nat) :
    let outcome := ((ofTokens .standard tokens).withMaxDepth maxDepth).parse.1
    ((∃ p, outcome = .ok p) ↔
      (∀ t ∈ input tokens, t.symbol ≠ .error ∧ t.wellFormed)
        ∧ ∃ T : Tree, T.Derives .program (input tokens) ∧ T.nesting ≤ maxDepth)
    ∧ ∀ p, outcome = .ok p →
      ∃ T : Tree, T.Derives .program (input tokens) ∧ T.program? = some p
        ∧ ∀ T' : Tree, T'.Derives .program (input tokens) → T' = T := by
  intro outcome
  obtain ⟨c, hc⟩ := Parse.exists_endsIn maxDepth (exists_eof_completed tokens)
  have houtcome : outcome = (Parse.ofTokens .standard maxDepth (completed tokens)).outcome := rfl
  generalize hp : Parse.ofTokens .standard maxDepth (completed tokens) = parse at hc houtcome
  -- An outcome that is a program has a derivation.
  have derivation {p : Program} (h : outcome = .ok p) :
      (∀ t ∈ input tokens, t.fault? = none) ∧ ∃ T : Tree, T.Derives .program (input tokens)
        ∧ T.nesting ≤ maxDepth ∧ T.program? = some p := by
    cases hending : parse.ending with
    | halt d => simp [houtcome, Parse.outcome, hending] at h
    | accept lookahead =>
      obtain ⟨T, prog, t, ts, -, hforest, -, hfits, htokens, heof, -, hprog, hok, -⟩ :=
        hc.of_accept hending
      have hclean := hc.sound.clean
      rw [hforest] at hclean
      have hclean : ∀ t ∈ T.yield, t.fault? = none ∧ t.symbol ≠ .eof := by
        simpa [Forest.tokens] using hclean
      have hyield : T.yield = input tokens := by
        rw [← input_completed, htokens, input_append_eof (fun t ht => (hclean t ht).2) heof]
      obtain rfl : prog = p := by simpa [hok, houtcome] using h
      rw [hyield] at hclean
      exact ⟨fun t ht => (hclean t ht).1, T, ⟨hfits.valid, hfits.symbol_eq, hyield⟩,
        hfits.nesting_le, hprog⟩
  refine ⟨⟨?_, ?_⟩, ?_⟩
  · rintro ⟨p, h⟩
    obtain ⟨hclean, T, hT, hd, -⟩ := derivation h
    exact ⟨fun t ht => Token.fault?_eq_none.mp (hclean t ht), T, hT, hd⟩
  · rintro ⟨hclean, T, hT, hd⟩
    obtain ⟨e, rest, htokens, he⟩ := completed_eq tokens
    obtain ⟨moves, refused, -, hrun⟩ :=
      hT.exists_steps (fun t ht => Token.fault?_eq_none.mpr (hclean t ht)) hd he rest
    have hending : parse.ending = .accept e.location := by
      rw [← htokens, hc.run_eq] at hrun
      exact congrArg Run.ending hrun
    obtain ⟨T, prog, t, ts, -, -, -, -, -, -, -, -, hok, -⟩ := hc.of_accept hending
    exact ⟨prog, by rw [houtcome, hok]⟩
  · intro p h
    obtain ⟨hclean, T, hT, -, hprog⟩ := derivation h
    exact ⟨T, hT, hprog, fun T' hT' => hT'.unique hT hclean⟩

end Session

end StartEnd
