import StartEnd.Proofs.Acceptance
import StartEnd.Proofs.Derivation.WrittenStatement

/-!
This module contains the proof that every program is found again in the words in which it is
written, however they are spelled and wherever they stand.
-/

namespace StartEnd

/--
No rule asks for the end of the input.
-/
theorem Tree.Valid.ne_eof {T : Tree} (h : T.Valid) (hs : T.symbol ≠ .eof) :
    ∀ t ∈ T.yield, t.symbol ≠ .eof := by
  induction h with
  | leaf => simpa using hs
  | @node r children symbols _ ih =>
    intro t ht
    rw [yield_node, List.mem_flatMap] at ht
    obtain ⟨C, hC, ht⟩ := ht
    refine ih C hC ?_ t ht
    intro heof
    have hrhs : Symbol.eof ∈ r.rhs := by
      rw [← symbols, ← heof]
      exact List.mem_map_of_mem hC
    revert hrhs
    cases r <;> decide

theorem Tree.Derives.parse_eq_ok {T : Tree} {tokens : List Token}
    (h : T.Derives .program (Session.input tokens))
    (clean : ∀ t ∈ Session.input tokens, t.fault? = none) {maxDepth : Nat}
    (hd : T.nesting ≤ maxDepth) :
    ∃ p, T.program? = some p
      ∧ ((Session.ofTokens .standard tokens).withMaxDepth maxDepth).parse.1 = .ok p := by
  obtain ⟨e, rest, htokens, he⟩ := Session.completed_eq tokens
  obtain ⟨moves, refused, hsteps, hrun⟩ := h.exists_steps clean hd he rest
  rw [← htokens] at hsteps hrun
  obtain ⟨c, hc⟩ := Parse.exists_endsIn maxDepth (Session.exists_eof_completed tokens)
  -- The parse makes the same steps, so that the tree it leaves is the given one.
  obtain ⟨-, rfl, -⟩ := hsteps.unique (.accept (Token.fault?_eq_none_of_eof he)) hc.steps hc.ends
  rw [hc.run_eq] at hrun
  obtain ⟨_, p, _, _, -, hforest, -, -, -, -, -, hp, hok, -⟩ :=
    hc.of_accept (congrArg Run.ending hrun)
  obtain ⟨rfl, -⟩ := List.cons.inj hforest
  exact ⟨p, hp, hok⟩

namespace Word

/--
A token that spells a word.
-/
def token : Word → Token
  | .symbol s => ⟨s, none, "", .start⟩
  | .name n => ⟨.identifier, some (.name n), "", .start⟩
  | .literal (.integer n) => ⟨.number, some (.integer n), "", .start⟩
  | .literal (.float x) => ⟨.number, some (.float x), "", .start⟩
  | .literal (.string content) => ⟨.stringLiteral, some (.text content), "", .start⟩
  | .literal (.bool true) => ⟨.trueKw, some (.boolean true), "", .start⟩
  | .literal (.bool false) => ⟨.falseKw, some (.boolean false), "", .start⟩

theorem spelledBy_token (w : Word) : w.SpelledBy w.token := by
  obtain _ | _ | _ | _ | _ | ⟨_ | _⟩ := w <;> first | rfl | exact ⟨rfl, rfl⟩

theorem spelledBy_map_token (words : List Word) :
    List.Forall₂ SpelledBy words (words.map token) := by
  rw [List.forall₂_map_right_iff, List.forall₂_same]
  exact fun w _ => w.spelledBy_token

end Word

/--
The words of a program have one derivation, however they are spelled, and a parse that allows the
nesting of this derivation yields the program, up to places.
-/
theorem Session.parse_of_words (p : Program) {tokens : List Token}
    (h : List.Forall₂ Word.SpelledBy p.words tokens) :
    ∃ T : Tree, T.Derives .program tokens
      ∧ (∀ T' : Tree, T'.Derives .program tokens → T' = T)
      ∧ ∀ maxDepth, T.nesting ≤ maxDepth →
        ∃ found, ((ofTokens .standard tokens).withMaxDepth maxDepth).parse.1 = .ok found
          ∧ found.unlocated = p.unlocated := by
  obtain ⟨T, hT, hclean, found, hfound, hforget⟩ := p.isWritten tokens h
  have hinput : input tokens = tokens := by
    apply input_eq_self
    rw [← hT.yield_eq]
    apply hT.valid.ne_eof
    simp [hT.symbol_eq, Form.reading]
  refine ⟨T, hT, fun T' hT' => hT'.unique hT hclean, fun maxDepth hd => ?_⟩
  rw [← hinput] at hT hclean
  obtain ⟨q, hq, hok⟩ := hT.parse_eq_ok hclean hd
  obtain rfl : found = q := Option.some.inj (hfound.symm.trans hq)
  exact ⟨found, hok, hforget⟩

theorem Session.parse_of_words_product :
    let sum : Expr := .binary .add (.var "a" .start) (.literal (.integer 1) .start) .start
    let product : Expr := .binary .mul sum (.unary .neg (.call "f" [sum] .start) .start) .start
    let p : Program := ⟨[.cond product [.ret sum .start] (some []) .start], .start⟩
    let tokens := p.words.map Word.token
    List.Forall₂ Word.SpelledBy p.words tokens
      ∧ ∃ T : Tree, T.Derives .program tokens
        ∧ (∀ T' : Tree, T'.Derives .program tokens → T' = T)
        ∧ ∀ maxDepth, T.nesting ≤ maxDepth →
          ∃ found, ((ofTokens .standard tokens).withMaxDepth maxDepth).parse.1 = .ok found
            ∧ found.unlocated = p.unlocated := by
  intro sum product p tokens
  have h : List.Forall₂ Word.SpelledBy p.words tokens := Word.spelledBy_map_token p.words
  exact ⟨h, parse_of_words p h⟩

end StartEnd
