import StartEnd.Proofs.Token.Longest

/-!
This module contains what lexemes mean: a relation between a lexeme and its symbol and payload, with
one rule for each kind of lexeme, and the proof that lexemes are classified by it. A lexeme that
means something does not go beyond its line.
-/

namespace StartEnd.Lexeme

open StartEnd.Lexeme.Class

/--
The reserved words with their symbols and payloads.
-/
def keywords : List (String × Symbol × Option TokenValue) := [
  ("Start", .startKw, none), ("end", .endKw, none), ("var", .varKw, none), ("if", .ifKw, none),
  ("then", .thenKw, none), ("else", .elseKw, none), ("while", .whileKw, none),
  ("do", .doKw, none), ("function", .functionKw, none), ("begin", .beginKw, none),
  ("return", .returnKw, none), ("true", .trueKw, some (.boolean true)),
  ("false", .falseKw, some (.boolean false)), ("int", .intKw, none), ("float", .floatKw, none),
  ("string", .stringKw, none), ("bool", .boolKw, none), ("and", .andKw, none),
  ("or", .orKw, none), ("not", .notKw, none)
]

/--
The characters that a backslash may take in a string literal, and what they stand for.
-/
def escapes : List (Char × Char) := [('"', '"'), ('\\', '\\'), ('n', '\n'), ('t', '\t')]

/--
What stands between the quotes of a string literal without unknown escapes, and its content.
-/
inductive Decodes : List Char → List Char → Prop where
  | nil : Decodes [] []
  | plain {c : Char} {body content : List Char} (hc : Plain c) (h : Decodes body content) :
    Decodes (c :: body) (c :: content)
  | escape {c d : Char} {body content : List Char} (hc : (c, d) ∈ escapes)
    (h : Decodes body content) : Decodes ('\\' :: c :: body) (d :: content)

/--
The symbol and the payload of a lexeme.
-/
inductive Means : List Char → Symbol → Option TokenValue → Prop where
  | keyword {row : String × Symbol × Option TokenValue} (h : row ∈ keywords) :
    Means row.1.toList row.2.1 row.2.2
  | name {w : List Char} (hw : w ∈ word) (h : String.ofList w ∉ keywords.map Prod.fst) :
    Means w .identifier (some (.name (String.ofList w)))
  | integer {w : List Char} (hw : w ∈ digits) (h : Nat.ofDigitChars 10 w 0 ≤ 2 ^ 63 - 1) :
    Means w .number (some (.integer (Nat.ofDigitChars 10 w 0)))
  | outOfRange {w : List Char} (hw : w ∈ digits) (h : 2 ^ 63 - 1 < Nat.ofDigitChars 10 w 0) :
    Means w .error (some (.invalid ("number literal out of range: " ++ String.ofList w)))
  | fraction {whole places : List Char} (hwhole : whole ∈ digits) (hplaces : places ∈ digits) :
    Means (whole ++ '.' :: places) .number (some (.float
      (Decimal.toFloat (Nat.ofDigitChars 10 (whole ++ places) 0) places.length)))
  | operator {w : List Char} {s : Symbol} (h : (w, s) ∈ operators) : Means w s none
  | string {body content : List Char} (h : Decodes body content) :
    Means ('"' :: (body ++ ['"'])) .stringLiteral (some (.text (String.ofList content)))
  | unknownEscape {front content back : List Char} {c : Char} (hfront : Decodes front content)
    (hc : c ∉ escapes.map Prod.fst) (hline : c ≠ '\n') (hback : back ∈ quotedBody) :
    Means ('"' :: (front ++ '\\' :: c :: (back ++ ['"']))) .error
      (some (.invalid ("unknown escape sequence '\\" ++ c.toString ++ "'")))
  | unclosed {rest : List Char} (h : ¬ Closed rest) (hline : '\n' ∉ rest) :
    Means ('"' :: rest) .error (some (.invalid "unterminated string literal"))
  | unexpected {c : Char} (h : [c] ∉ any) (hquote : c ≠ '"') :
    Means [c] .error (some (.invalid ("unexpected character '" ++ c.toString ++ "'")))

/--
No lexeme ends the input.
-/
theorem Means.ne_eof {w : List Char} {symbol : Symbol} {value : Option TokenValue}
    (h : Means w symbol value) : symbol ≠ .eof := by
  have hkeywords : ∀ row ∈ keywords, row.2.1 ≠ .eof := by decide
  have hoperators : ∀ row ∈ operators, row.2 ≠ .eof := by decide
  cases h with
  | keyword h => exact hkeywords _ h
  | operator h => exact hoperators _ h
  | _ => simp

section Word

theorem keyword?_of_not_mem {word : String} (h : word ∉ keywords.map Prod.fst) :
    keyword? word = none := by
  simp only [keywords, List.map_cons, List.map_nil, List.mem_cons, List.not_mem_nil, or_false,
    not_or] at h
  unfold keyword?
  split <;> simp_all

theorem classify_keyword : ∀ row ∈ keywords, classify row.1.toList = row.2 := by
  simp only [keywords, List.forall_mem_cons, List.not_mem_nil, false_implies, implies_true,
    and_true]
  and_intros <;> rfl

theorem classify_name {w : List Char} (hw : w ∈ word)
    (h : String.ofList w ∉ keywords.map Prod.fst) :
    classify w = (.identifier, some (.name (String.ofList w))) := by
  obtain ⟨c, cs, rfl, hc, -⟩ := mem_word.mp hw
  obtain ⟨hquote, hdigit⟩ := isLetter_exclusive hc
  rw [classify, if_neg hquote, if_neg (by simp [hdigit]), if_pos hc, classifyWord,
    keyword?_of_not_mem h]

end Word

section Number

theorem classify_of_mem_digits {w : List Char} (hw : w ∈ digits) (rest : List Char) :
    classify (w ++ rest) = classifyNumber (w ++ rest) := by
  obtain ⟨c, cs, rfl, hc, -⟩ := mem_digits.mp hw
  rw [List.cons_append, classify, if_neg (isDigit_exclusive hc).1, if_pos hc]

theorem classify_integer {w : List Char} (hw : w ∈ digits) :
    classify w
      =
    if Nat.ofDigitChars 10 w 0 ≤ 2 ^ 63 - 1 then
      (.number, some (.integer (Nat.ofDigitChars 10 w 0)))
    else (.error, some (.invalid ("number literal out of range: " ++ String.ofList w))) := by
  have hdigits := (mem_digits_iff.mp hw).2
  have hclassify := classify_of_mem_digits hw []
  rw [List.append_nil] at hclassify
  rw [hclassify, classifyNumber, List.dropWhile_eq_nil_iff.mpr hdigits]
  rfl

theorem classify_fraction {whole places : List Char} (hwhole : whole ∈ digits) :
    classify (whole ++ '.' :: places)
      =
    (.number, some (.float
      (Decimal.toFloat (Nat.ofDigitChars 10 (whole ++ places) 0) places.length))) := by
  have hdigits := (mem_digits_iff.mp hwhole).2
  rw [classify_of_mem_digits hwhole, classifyNumber, List.dropWhile_append_of_pos hdigits,
    List.takeWhile_append_of_pos hdigits]
  simp [show ('.').isDigit = false from rfl]
  rfl

end Number

section Operator

theorem operator?_eq_some_iff {w : List Char} {s : Symbol} :
    operator? w = some s ↔ (w, s) ∈ operators := by
  unfold operator?
  split <;> simp_all [operators, eq_comm]

theorem classify_operator {c : Char} {w : List Char} (hquote : c ≠ '"') (hdigit : c.isDigit = false)
    (hletter : isLetter c = false) :
    classify (c :: w)
      =
    match operator? (c :: w) with
    | some s => (s, none)
    | none => (.error, some (.invalid ("unexpected character '" ++ c.toString ++ "'"))) := by
  rw [classify, if_neg hquote, if_neg (by simp [hdigit]), if_neg (by simp [hletter])]
  rfl

end Operator

section Quoted

theorem escape?_eq_some_iff {c d : Char} : escape? c = some d ↔ (c, d) ∈ escapes := by
  unfold escape?
  split <;> simp_all [escapes, eq_comm]

theorem escape?_eq_none {c : Char} (h : c ∉ escapes.map Prod.fst) : escape? c = none := by
  rw [Option.eq_none_iff_forall_ne_some]
  intro d hd
  exact h (List.mem_map.mpr ⟨(c, d), escape?_eq_some_iff.mp hd, rfl⟩)

theorem Quoted.escaped_of_mem {c d : Char} (h : (c, d) ∈ escapes) (q : Quoted) :
    q.escaped c = q.cons d := by
  unfold escaped
  rw [escape?_eq_some_iff.mpr h]

theorem Quoted.escaped_of_not_mem {c : Char} (h : c ∉ escapes.map Prod.fst) {q : Quoted}
    (hq : q ≠ .unterminated) : q.escaped c = .unknownEscape c := by
  unfold escaped
  rw [escape?_eq_none h]
  cases q <;> simp_all

theorem Quoted.cons_ne_unterminated {q : Quoted} (hq : q ≠ .unterminated) (c : Char) :
    q.cons c ≠ .unterminated := by
  cases q <;> simp_all [cons]

theorem Quoted.escaped_ne_unterminated {q : Quoted} (hq : q ≠ .unterminated) (c : Char) :
    q.escaped c ≠ .unterminated := by
  by_cases hc : c ∈ escapes.map Prod.fst
  · obtain ⟨⟨c, d⟩, hd, rfl⟩ := List.mem_map.mp hc
    rw [escaped_of_mem hd]
    exact cons_ne_unterminated hq d
  · rw [escaped_of_not_mem hc hq]
    simp

theorem unquote_of_decodes {body content : List Char} (h : Decodes body content)
    (rest : List Char) : unquote (body ++ '"' :: rest) = .closed content := by
  induction h with
  | nil =>
    rw [unquote.eq_def]
    rfl
  | plain hc _ ih =>
    rw [List.cons_append, unquote_cons _ hc.1 hc.2.1, ih]
    rfl
  | escape hc _ ih =>
    rw [List.cons_append, List.cons_append, unquote_backslash, ih, Quoted.escaped_of_mem hc]
    rfl

theorem unquote_ne_unterminated {body : List Char} (h : body ∈ quotedBody) (rest : List Char) :
    unquote (body ++ '"' :: rest) ≠ .unterminated := by
  induction h using quotedBody_induct with
  | nil =>
    rw [unquote_of_decodes .nil]
    simp
  | plain c body hc _ ih =>
    rw [List.cons_append, unquote_cons _ hc.1 hc.2.1]
    exact Quoted.cons_ne_unterminated ih c
  | escape c body _ _ ih =>
    rw [List.cons_append, List.cons_append, unquote_backslash]
    exact Quoted.escaped_ne_unterminated ih c

theorem unquote_unknownEscape {front content : List Char} (h : Decodes front content) {c : Char}
    (hc : c ∉ escapes.map Prod.fst) {rest : List Char} (hrest : unquote rest ≠ .unterminated) :
    unquote (front ++ '\\' :: c :: rest) = .unknownEscape c := by
  induction h with
  | nil =>
    rw [List.nil_append, unquote_backslash]
    exact Quoted.escaped_of_not_mem hc hrest
  | plain hplain _ ih =>
    rw [List.cons_append, unquote_cons _ hplain.1 hplain.2.1, ih]
    rfl
  | escape hmem _ ih =>
    rw [List.cons_append, List.cons_append, unquote_backslash, ih, Quoted.escaped_of_mem hmem]
    rfl

theorem unquote_of_not_closed {rest : List Char} (h : ¬ Closed rest) (hline : '\n' ∉ rest) :
    unquote rest = .unterminated := by
  induction rest using unquote.induct with
  | case1 => rfl
  | case2 rest => exact absurd (closed_cons.mpr (.inl rfl)) h
  | case3 => rfl
  | case4 d rest _ ih =>
    have hd : d ≠ '\n' := by
      rintro rfl
      simp at hline
    have hrest : ¬ Closed rest := fun hclosed =>
      h (closed_cons.mpr (.inr (.inr ⟨rfl, d, rest, rfl, hd, hclosed⟩)))
    rw [unquote_backslash, ih hrest (by simp_all), Quoted.escaped_unterminated]
  | case5 c rest hquote hescape ih =>
    have hc : c ≠ '\n' := by
      rintro rfl
      simp at hline
    have hrest : ¬ Closed rest := fun hclosed =>
      h (closed_cons.mpr (.inr (.inl ⟨⟨hquote, hescape, hc⟩, hclosed⟩)))
    rw [unquote_cons _ hquote hescape, ih hrest (by simp_all)]
    rfl

theorem classify_quoted {rest : List Char} {symbol : Symbol} {value : Option TokenValue}
    (h : classifyQuoted rest = (symbol, value)) : classify ('"' :: rest) = (symbol, value) := by
  rw [classify, if_pos rfl, h]

end Quoted

/--
A lexeme is classified by what it means.
-/
theorem Means.classify_eq {w : List Char} {symbol : Symbol} {value : Option TokenValue}
    (h : Means w symbol value) : classify w = (symbol, value) := by
  cases h with
  | keyword h => exact classify_keyword _ h
  | name hw h => exact classify_name hw h
  | integer hw h => rw [classify_integer hw, if_pos h]
  | outOfRange hw h => rw [classify_integer hw, if_neg (by omega)]
  | fraction hwhole hplaces => exact classify_fraction hwhole
  | operator h =>
    have hop : w ∈ Class.operator := List.mem_map.mpr ⟨_, h, rfl⟩
    cases w with
    | nil => exact absurd rfl (ne_nil_of_mem_any (mem_any.mpr (.inr (.inr (.inl hop)))))
    | cons c w =>
      obtain ⟨hquote, hdigit, hletter⟩ := operator_exclusive hop
      rw [classify_operator hquote hdigit hletter, operator?_eq_some_iff.mpr h]
  | string h =>
    apply classify_quoted
    rw [classifyQuoted, unquote_of_decodes h]
  | unknownEscape hfront hc hline hback =>
    apply classify_quoted
    rw [classifyQuoted, unquote_unknownEscape hfront hc (unquote_ne_unterminated hback [])]
    rfl
  | unclosed h hline =>
    apply classify_quoted
    rw [classifyQuoted, unquote_of_not_closed h hline]
    rfl
  | @unexpected c h hquote =>
    rw [mem_any, mem_word, mem_number, mem_digits, mem_operator] at h
    have hdigit : c.isDigit = false := by
      rw [Bool.eq_false_iff]
      exact fun hc => h (.inr (.inl (.inl ⟨c, [], rfl, hc, by simp⟩)))
    have hletter : isLetter c = false := by
      rw [Bool.eq_false_iff]
      exact fun hc => h (.inl ⟨c, [], rfl, hc, by simp⟩)
    have hop : operator? [c] = none := by
      rw [Option.eq_none_iff_forall_ne_some]
      intro s hs
      exact h (.inr (.inr (.inl (List.mem_map.mpr ⟨_, operator?_eq_some_iff.mp hs, rfl⟩))))
    rw [classify_operator hquote hdigit hletter, hop]

/--
What stands between the quotes of a string literal has content, or there is a first unknown escape.
-/
theorem decodes_or_unknownEscape {body : List Char} (h : body ∈ quotedBody) :
    (∃ content, Decodes body content) ∨ ∃ front content c back, Decodes front content
      ∧ c ∉ escapes.map Prod.fst ∧ c ≠ '\n' ∧ back ∈ quotedBody
      ∧ body = front ++ '\\' :: c :: back := by
  induction h using quotedBody_induct with
  | nil => exact .inl ⟨[], .nil⟩
  | plain c body hc h ih =>
    obtain ⟨content, hcontent⟩ | ⟨front, content, d, back, hfront, hd, hline, hback, rfl⟩ := ih
    · exact .inl ⟨c :: content, .plain hc hcontent⟩
    · exact .inr ⟨c :: front, c :: content, d, back, .plain hc hfront, hd, hline, hback, rfl⟩
  | escape c body hc h ih =>
    by_cases hmem : c ∈ escapes.map Prod.fst
    · obtain ⟨⟨c, d⟩, hd, rfl⟩ := List.mem_map.mp hmem
      obtain ⟨content, hcontent⟩ | ⟨front, content, d', back, hfront, hd', hline, hback, rfl⟩ := ih
      · exact .inl ⟨d :: content, .escape hd hcontent⟩
      · exact .inr ⟨_, d :: content, d', back, .escape hd hfront, hd', hline, hback, rfl⟩
    · exact .inr ⟨[], [], c, body, .nil, hmem, hc, h, rfl⟩

theorem exists_means_of_mem {w : List Char} (h : w ∈ any) :
    ∃ symbol value, Means w symbol value := by
  obtain h | h | h | h := mem_any.mp h
  · by_cases hkeyword : String.ofList w ∈ keywords.map Prod.fst
    · obtain ⟨row, hrow, hw⟩ := List.mem_map.mp hkeyword
      have := Means.keyword hrow
      rw [hw, String.toList_ofList] at this
      exact ⟨_, _, this⟩
    · exact ⟨_, _, .name h hkeyword⟩
  · obtain h | ⟨whole, hwhole, places, hplaces, rfl⟩ := mem_number.mp h
    · obtain hlt | hle := Nat.lt_or_ge (2 ^ 63 - 1) (Nat.ofDigitChars 10 w 0)
      · exact ⟨_, _, .outOfRange h hlt⟩
      · exact ⟨_, _, .integer h hle⟩
    · exact ⟨_, _, .fraction hwhole hplaces⟩
  · obtain ⟨⟨w, s⟩, hop, rfl⟩ := List.mem_map.mp h
    exact ⟨_, _, .operator hop⟩
  · obtain ⟨body, hbody, rfl⟩ := mem_quoted.mp h
    obtain ⟨content, hcontent⟩ | ⟨front, content, c, back, hfront, hc, hline, hback, rfl⟩ :=
      decodes_or_unknownEscape hbody
    · exact ⟨_, _, .string hcontent⟩
    · have := Means.unknownEscape hfront hc hline hback
      exact ⟨_, _, by simpa using this⟩

theorem Heads.exists_means {text w : List Char} (h : Heads text w) :
    ∃ symbol value, Means w symbol value := by
  cases h with
  | longest mem => exact exists_means_of_mem mem
  | unclosed none quote =>
    obtain ⟨rest, rfl⟩ : ∃ rest, text = '"' :: rest := by
      cases text <;> simp_all
    have hopen : ¬ Closed (rest.takeWhile (· ≠ '\n')) := by
      rintro ⟨body, hbody, h⟩
      have hquoted : '"' :: (body ++ ['"']) ∈ quoted := mem_quoted.mpr ⟨body, hbody, rfl⟩
      apply none _ (mem_any.mpr (.inr (.inr (.inr hquoted))))
      exact List.cons_prefix_cons.mpr ⟨rfl, h.trans (List.takeWhile_prefix _)⟩
    have hline : '\n' ∉ rest.takeWhile (· ≠ '\n') := by
      intro h
      simpa using List.mem_takeWhile_imp h
    exact ⟨_, _, .unclosed hopen hline⟩
  | single none head quote =>
    obtain ⟨rest, rfl⟩ : ∃ rest, text = _ :: rest := List.head?_eq_some_iff.mp head
    exact ⟨_, _, .unexpected (fun h => none _ h (List.prefix_append [_] rest)) quote⟩

theorem Heads.means_iff {text w : List Char} (h : Heads text w) {symbol : Symbol}
    {value : Option TokenValue} : Means w symbol value ↔ classify w = (symbol, value) := by
  obtain ⟨symbol', value', hmeans⟩ := h.exists_means
  constructor
  · exact Means.classify_eq
  · intro heq
    obtain ⟨rfl, rfl⟩ := Prod.mk.inj (hmeans.classify_eq.symm.trans heq)
    exact hmeans

section Lines

variable {w : List Char} {symbol : Symbol} {value : Option TokenValue}

theorem Decodes.newline_not_mem {body content : List Char} (h : Decodes body content) :
    '\n' ∉ body := by
  have hescapes : ∀ e ∈ escapes, e.1 ≠ '\n' := by decide
  induction h with
  | nil => exact List.not_mem_nil
  | plain hc _ ih => simpa [hc.2.2.symm] using ih
  | escape hc _ ih => simpa [(hescapes _ hc).symm] using ih

theorem newline_not_mem_of_mem_quotedBody {body : List Char} (h : body ∈ quotedBody) :
    '\n' ∉ body := by
  induction h using quotedBody_induct with
  | nil => exact List.not_mem_nil
  | plain c body hc _ ih => simpa [hc.2.2.symm] using ih
  | escape c body hc _ ih => simpa [hc.symm] using ih

theorem newline_not_mem_of_mem_word (h : w ∈ word) : '\n' ∉ w := by
  obtain ⟨c, cs, rfl, hc, hcs⟩ := mem_word.mp h
  rw [List.mem_cons, not_or]
  refine ⟨?_, fun hmem => ?_⟩
  · rintro rfl
    exact absurd hc (by decide)
  · exact absurd (hcs _ hmem) (by decide)

theorem newline_not_mem_of_mem_digits (h : w ∈ digits) : '\n' ∉ w := by
  intro hmem
  exact absurd ((mem_digits_iff.mp h).2 _ hmem) (by decide)

/--
A lexeme does not go beyond its line.
-/
theorem Means.newline_not_mem (h : Means w symbol value) (hhead : w.head? ≠ some '\n') :
    '\n' ∉ w := by
  have hkeywords : ∀ row ∈ keywords, '\n' ∉ row.1.toList := by decide
  have hoperators : ∀ row ∈ operators, '\n' ∉ row.1 := by decide
  cases h with
  | keyword h => exact hkeywords _ h
  | name hw => exact newline_not_mem_of_mem_word hw
  | integer hw => exact newline_not_mem_of_mem_digits hw
  | outOfRange hw => exact newline_not_mem_of_mem_digits hw
  | fraction hwhole hplaces =>
    simp [newline_not_mem_of_mem_digits hwhole, newline_not_mem_of_mem_digits hplaces]
  | operator h => exact hoperators _ h
  | string h => simp [h.newline_not_mem]
  | unknownEscape hfront _ hline hback =>
    simp [hfront.newline_not_mem, hline.symm, newline_not_mem_of_mem_quotedBody hback]
  | unclosed _ hline => simpa using hline
  | unexpected => simpa [eq_comm] using hhead

end Lines

end StartEnd.Lexeme
