import StartEnd.Proofs.Parse.Unlocated
import StartEnd.Proofs.Token.Extent

/-!
This module contains the proof that layout has no meaning: a source text whose lexemes are set anew,
with other blanks between them, is the same program, or is refused for the same reason.
-/

namespace StartEnd

namespace Token

open Lexeme

/--
Whether a token is a string literal that its line does not close.
-/
def Unclosed (t : Token) : Prop := t.invalidReason? = some "unterminated string literal"

instance (t : Token) : Decidable t.Unclosed :=
  inferInstanceAs (Decidable (t.invalidReason? = some "unterminated string literal"))

/--
The texts that set the lexemes of tokens in their order, each with blanks behind it. Blanks keep a
lexeme apart from the next one, and an unclosed string literal is ended by its line.
-/
inductive Layout : List Token → List Char → Prop
  | nil : Layout [] []
  | cons {t : Token} {tokens : List Token} {gap text : List Char} (blank : ∀ c ∈ gap, isBlank c)
    (apart : tokens ≠ [] → gap ≠ [])
    (unclosed : t.Unclosed → gap ++ text = [] ∨ (gap ++ text).head? = some '\n')
    (rest : Layout tokens text) : Layout (t :: tokens) (t.lexeme.toList ++ (gap ++ text))

theorem unclosed_token {rest : List Char} (h : unquote rest = .unterminated) (location : Location) :
    (Lexeme.token ('"' :: rest) location).Unclosed := by
  show (Token.mk (classifyQuoted rest).1 (classifyQuoted rest).2 _ _).Unclosed
  rw [classifyQuoted, h]
  rfl

theorem scanFrom_ne_nil (location : Location) (cs : List Char) : scanFrom location cs ≠ [] := by
  rw [scanFrom]
  split <;> simp

theorem scanFrom_blank {cs : List Char} (h : ∀ c ∈ cs, isBlank c) (location : Location) :
    scanFrom location cs = [eof (location.after cs)] := by
  have hdrop : cs.dropWhile isBlank = [] := List.dropWhile_eq_nil_iff.mpr h
  rw [scanFrom]
  split
  · rw [List.takeWhile_eq_self_iff.mpr h]
  · next hcons =>
    rw [hdrop] at hcons
    contradiction

theorem scanFrom_lexeme {gap : List Char} (h : ∀ c ∈ gap, isBlank c) {c : Char}
    (hc : isBlank c = false) (rest : List Char) (location : Location) :
    let here := location.after gap
    let lexeme := c :: rest.take (extent c rest)
    scanFrom location (gap ++ c :: rest)
      =
    Lexeme.token lexeme here :: scanFrom (here.after lexeme) (rest.drop (extent c rest)) := by
  have htake : (gap ++ c :: rest).takeWhile isBlank = gap := by
    rw [List.takeWhile_append_of_pos h, List.takeWhile_cons_of_neg (by simp [hc]), List.append_nil]
  have hdrop : (gap ++ c :: rest).dropWhile isBlank = c :: rest := by
    rw [List.dropWhile_append_of_pos h, List.dropWhile_cons_of_neg (by simp [hc])]
  rw [scanFrom]
  split
  · next hnil =>
    rw [hdrop] at hnil
    contradiction
  · next hcons =>
    rw [hdrop] at hcons
    obtain ⟨rfl, rfl⟩ := List.cons.inj hcons
    rw [htake]

theorem scanFrom_cons {c : Char} (hc : isBlank c = false) (rest : List Char) (location : Location) :
    let lexeme := c :: rest.take (extent c rest)
    scanFrom location (c :: rest)
      =
    Lexeme.token lexeme location :: scanFrom (location.after lexeme) (rest.drop (extent c rest)) :=
  @scanFrom_lexeme [] (by simp) c hc rest location

theorem Layout.apart_append {tokens : List Token} {gap text : List Char}
    (blank : ∀ c ∈ gap, isBlank c) (apart : tokens ≠ [] → gap ≠ []) (h : Layout tokens text) :
    Apart (gap ++ text) := by
  intro c hc
  cases gap with
  | nil =>
    cases h with
    | nil => simp at hc
    | cons => exact absurd rfl (apart (by simp))
  | cons d gap =>
    obtain rfl : d = c := by simpa using hc
    exact blank d (by simp)

/--
Lexemes that are set anew are found again, each in front of the blanks that now follow it.
-/
theorem scanFrom_layout (location location' : Location) (cs : List Char) {gap body : List Char}
    (hgap : ∀ c ∈ gap, isBlank c) (hbody : Layout (scanFrom location cs).dropLast body) :
    (scanFrom location' (gap ++ body)).map unlocated
      =
    (scanFrom location cs).map unlocated := by
  -- The induction is on the scan of the source text, the lexemes of which determine the other scan.
  fun_induction scanFrom location cs generalizing location' gap body
  case case1 here hdrop =>
    cases hbody
    rw [List.append_nil, scanFrom_blank hgap]
    rfl
  case case2 location cs here c rest hcons lexeme ih =>
    have hc : isBlank c = false := by
      simpa [hcons] using List.head?_dropWhile_not isBlank cs
    rw [List.dropLast_cons_of_ne_nil (scanFrom_ne_nil _ _)] at hbody
    generalize htail : (scanFrom (here.after lexeme) (rest.drop (extent c rest))).dropLast = tokens
      at hbody
    cases hbody with
    | @cons _ _ gap' text blank apart unclosed hrest =>
      rw [show (Lexeme.token lexeme here).lexeme.toList = lexeme from String.toList_ofList]
      have hline : c = '"' → unquote (rest.take (extent c rest)) = .unterminated →
          gap' ++ text = [] ∨ (gap' ++ text).head? = some '\n' := by
        rintro rfl hopen
        exact unclosed (unclosed_token hopen here)
      have hextent := extent_take c rest (hrest.apart_append blank apart) hline
      rw [List.cons_append, scanFrom_lexeme hgap hc, hextent, List.take_left, List.drop_left]
      rw [List.map_cons, List.map_cons, ih _ blank (htail ▸ hrest)]
      rfl

end Token

/--
Whether a text sets the lexemes of a source text anew. The last token of the source text, which ends
the input, has no lexeme.
-/
def Relaid (source text : String) : Prop :=
  ∃ gap body, (∀ c ∈ gap, Lexeme.isBlank c) ∧ text.toList = gap ++ body
    ∧ Token.Layout (Token.scan source).dropLast body

/--
Two texts that differ in their layout alone are the same program up to places, or they are refused
with the same diagnostics up to places.
-/
theorem Program.ofSource_eq_of_relaid {source text : String} (h : Relaid source text) :
    ((Program.ofSource text).map Program.unlocated).mapError SyntaxError.unlocated
      =
    ((Program.ofSource source).map Program.unlocated).mapError SyntaxError.unlocated := by
  obtain ⟨gap, body, hgap, htext, hbody⟩ := h
  have htokens : (Token.scan text).map Token.unlocated = (Token.scan source).map Token.unlocated := by
    rw [Token.scan, htext]
    exact Token.scanFrom_layout .start .start source.toList hgap hbody
  have houtcome (source : String) :
      ((Program.ofSource source).map Program.unlocated).mapError SyntaxError.unlocated
        =
      (Session.ofTokens .standard ((Token.scan source).map Token.unlocated)).parse.1.mapError
        .diagnostics := by
    rw [Session.ofTokens_unlocated, Session.parse_unlocated, ofSource, Session.ofSource]
    cases (Session.ofTokens .standard (Token.scan source)).parse.1 <;> rfl
  rw [houtcome, houtcome, htokens]

theorem Program.ofSource_eq_of_relaid_unclosed :
    Relaid "x;\"a" "\tx\r\n; \"a\n"
      ∧ ((Program.ofSource "\tx\r\n; \"a\n").map Program.unlocated).mapError SyntaxError.unlocated
        = ((Program.ofSource "x;\"a").map Program.unlocated).mapError SyntaxError.unlocated := by
  have hscan : (Token.scan "x;\"a").dropLast
      = [Lexeme.token ['x'] ⟨1, 1⟩, Lexeme.token [';'] ⟨1, 2⟩, Lexeme.token ['"', 'a'] ⟨1, 3⟩] := by
    rw [Token.scan, show "x;\"a".toList = ['x', ';', '"', 'a'] from rfl]
    rw [Token.scanFrom_cons (c := 'x') rfl]
    show (_ :: Token.scanFrom _ [';', '"', 'a']).dropLast = _
    rw [Token.scanFrom_cons (c := ';') rfl]
    show (_ :: _ :: Token.scanFrom _ ['"', 'a']).dropLast = _
    rw [Token.scanFrom_cons (c := '"') rfl]
    show (_ :: _ :: _ :: Token.scanFrom _ []).dropLast = _
    rw [Token.scanFrom_blank (by simp)]
    rfl
  have h : Relaid "x;\"a" "\tx\r\n; \"a\n" := by
    refine ⟨['\t'], ['x', '\r', '\n', ';', ' ', '"', 'a', '\n'], by simp [Lexeme.isBlank], rfl, ?_⟩
    rw [hscan]
    have hlast : Token.Layout [Lexeme.token ['"', 'a'] ⟨1, 3⟩] ['"', 'a', '\n'] :=
      @Token.Layout.cons _ _ ['\n'] _ (by simp [Lexeme.isBlank]) (by simp) (fun _ => .inr rfl) .nil
    have htail : Token.Layout [Lexeme.token [';'] ⟨1, 2⟩, _] [';', ' ', '"', 'a', '\n'] :=
      @Token.Layout.cons _ _ [' '] _ (by simp [Lexeme.isBlank]) (by simp)
        (fun h => absurd h (by decide)) hlast
    exact @Token.Layout.cons (Lexeme.token ['x'] ⟨1, 1⟩) _ ['\r', '\n'] _
      (by simp [Lexeme.isBlank]) (by simp) (fun h => absurd h (by decide)) htail
  exact ⟨h, Program.ofSource_eq_of_relaid h⟩

end StartEnd
