import StartEnd.Proofs.Token.Class

/-!
This module contains the proof that a lexeme reaches as far as possible: it is the longest text of a
lexical class at the head of what remains of a source text. If there is none, it is the rest of the
line behind an opening quote, or else a single character.
-/

namespace StartEnd.Lexeme

/--
The lexeme at the head of a text.
-/
inductive Heads (text : List Char) : List Char → Prop where
  | longest {w : List Char} (mem : w ∈ Class.any) (h : w <+: text)
    (longest : ∀ v ∈ Class.any, v <+: text → v.length ≤ w.length) : Heads text w
  | unclosed (none : ∀ v ∈ Class.any, ¬ v <+: text) (quote : text.head? = some '"') :
    Heads text (text.takeWhile (· ≠ '\n'))
  | single {c : Char} (none : ∀ v ∈ Class.any, ¬ v <+: text) (head : text.head? = some c)
    (quote : c ≠ '"') : Heads text [c]

open StartEnd.Lexeme.Class

theorem length_le_of_isPrefix {p : Char → Bool} {cs rest : List Char} (h : cs <+: rest)
    (hp : ∀ c ∈ cs, p c) : cs.length ≤ (rest.takeWhile p).length := by
  obtain ⟨tail, rfl⟩ := h
  rw [List.takeWhile_append_of_pos hp]
  simp

theorem heads_of_length_le {c : Char} {rest : List Char} {n : Nat} (mem : c :: rest.take n ∈ any)
    (h : ∀ v, c :: v ∈ any → v <+: rest → v.length ≤ n) :
    Heads (c :: rest) (c :: rest.take n) := by
  refine .longest mem (List.cons_prefix_cons.mpr ⟨rfl, List.take_prefix ..⟩) ?_
  intro v hv hpre
  cases v with
  | nil => simp
  | cons d v =>
    obtain ⟨rfl, hrest⟩ := List.cons_prefix_cons.mp hpre
    have hn := h v hv hrest
    have hlength := hrest.length_le
    simp only [List.length_cons, List.length_take]
    omega

section Quoted

variable {rest : List Char}

theorem quotedExtent_of_mem {body : List Char} (h : body ∈ quotedBody) (tail : List Char) :
    quotedExtent (body ++ '"' :: tail) = body.length + 1 := by
  induction h using quotedBody_induct with
  | nil => exact quotedExtent_quote tail
  | plain c body hc _ ih =>
    rw [List.cons_append, quotedExtent_cons _ hc.1 hc.2.2 hc.2.1, ih]
    rfl
  | escape c body hc _ ih =>
    rw [List.cons_append, List.cons_append, quotedExtent_backslash _ hc, ih]
    rfl

/--
A string literal that is not closed takes the rest of its line.
-/
theorem take_quotedExtent (h : ¬ Closed rest) :
    rest.take (quotedExtent rest) = rest.takeWhile (· ≠ '\n') := by
  induction rest using quotedExtent.induct with
  | case1 => rfl
  | case2 rest => exact absurd (closed_cons.mpr (.inl rfl)) h
  | case3 rest =>
    rw [quotedExtent_newline]
    rfl
  | case4 => rfl
  | case5 rest =>
    rw [quotedExtent_backslash_newline]
    rfl
  | case6 d rest hd _ _ ih =>
    have hrest : ¬ Closed rest := fun hclosed =>
      h (closed_cons.mpr (.inr (.inr ⟨rfl, d, rest, rfl, hd, hclosed⟩)))
    rw [quotedExtent_backslash rest hd, List.take_succ_cons, List.take_succ_cons, ih hrest]
    simp [hd]
  | case7 c rest hquote hline hescape ih =>
    have hrest : ¬ Closed rest := fun hclosed =>
      h (closed_cons.mpr (.inr (.inl ⟨⟨hquote, hescape, hline⟩, hclosed⟩)))
    rw [quotedExtent_cons rest hquote hline hescape, List.take_succ_cons, ih hrest]
    simp [hline]

theorem exists_of_quote_cons {v : List Char} (h : '"' :: v ∈ any) :
    ∃ body ∈ quotedBody, v = body ++ ['"'] := by
  obtain ⟨hc, -⟩ | ⟨hc, -⟩ | ⟨-, h⟩ | ⟨-, hc, -⟩ := cons_mem_any h
  · cases hc
  · cases hc
  · obtain ⟨body, hbody, hv⟩ := mem_quoted.mp h
    exact ⟨body, hbody, (List.cons.inj hv).2⟩
  · exact absurd rfl hc

theorem heads_quoted (rest : List Char) :
    Heads ('"' :: rest) ('"' :: rest.take (quotedExtent rest)) := by
  by_cases hclosed : Closed rest
  · obtain ⟨body, hbody, tail, rfl⟩ := hclosed
    have hextent : quotedExtent (body ++ ['"'] ++ tail) = (body ++ ['"']).length := by
      rw [List.append_assoc, List.length_append]
      exact quotedExtent_of_mem hbody tail
    apply heads_of_length_le
    · rw [hextent, List.take_left, mem_any]
      exact .inr (.inr (.inr (mem_quoted.mpr ⟨body, hbody, rfl⟩)))
    · rintro v hv ⟨tail', hrest⟩
      obtain ⟨body', hbody', rfl⟩ := exists_of_quote_cons hv
      -- The first quote that no backslash takes closes the literal, so that no other text does.
      rw [← hrest, List.append_assoc, List.length_append]
      exact (quotedExtent_of_mem hbody' tail').ge
  · have hnone : ∀ v ∈ any, ¬ v <+: '"' :: rest := by
      rintro (_ | ⟨c, v⟩) hv h
      · exact ne_nil_of_mem_any hv rfl
      · obtain ⟨rfl, hrest⟩ := List.cons_prefix_cons.mp h
        obtain ⟨body, hbody, rfl⟩ := exists_of_quote_cons hv
        exact hclosed ⟨body, hbody, hrest⟩
    have hline : '"' :: rest.take (quotedExtent rest) = ('"' :: rest).takeWhile (· ≠ '\n') := by
      rw [take_quotedExtent hclosed]
      rfl
    rw [hline]
    exact .unclosed hnone rfl

end Quoted

section Number

theorem takeWhile_length_le_numberExtent (rest : List Char) :
    (rest.takeWhile Char.isDigit).length ≤ numberExtent rest := by
  unfold numberExtent
  dsimp only
  split
  · split <;> omega
  · exact Nat.le_refl _

theorem length_le_numberExtent {whole places tail : List Char} (hwhole : ∀ c ∈ whole, c.isDigit)
    (hne : places ≠ []) (hplaces : ∀ c ∈ places, c.isDigit) :
    (whole ++ '.' :: places).length ≤ numberExtent (whole ++ '.' :: places ++ tail) := by
  have hlength := length_le_of_isPrefix (List.prefix_append places tail) hplaces
  have hpos := List.length_pos_iff.mpr hne
  have hpoint : ('.').isDigit = false := rfl
  unfold numberExtent
  rw [List.append_assoc, List.takeWhile_append_of_pos hwhole, List.dropWhile_append_of_pos hwhole]
  simp only [List.cons_append, List.takeWhile_cons_of_neg, List.dropWhile_cons_of_neg, hpoint,
    Bool.false_eq_true, not_false_eq_true, List.append_nil, List.length_append, List.length_cons]
  split <;> omega

theorem heads_number {c : Char} (hc : c.isDigit) (rest : List Char) :
    Heads (c :: rest) (c :: rest.take (numberExtent rest)) := by
  apply heads_of_length_le
  · rw [mem_any, mem_number]
    refine .inr (.inl ?_)
    obtain ⟨digits, hdigits, hwhole | ⟨places, hne, hplaces, hpoint⟩⟩ := take_numberExtent rest
    · rw [hwhole]
      exact .inl (mem_digits.mpr ⟨c, digits, rfl, hc, hdigits⟩)
    · rw [hpoint]
      exact .inr ⟨c :: digits, mem_digits.mpr ⟨c, digits, rfl, hc, hdigits⟩, places,
        mem_digits_iff.mpr ⟨hne, hplaces⟩, rfl⟩
  · intro v hv hrest
    obtain ⟨hletter, -⟩ | ⟨-, h⟩ | ⟨rfl, -⟩ | ⟨-, -, hdigit, -⟩ := cons_mem_any hv
    · rw [(isDigit_exclusive hc).2] at hletter
      cases hletter
    · obtain h | ⟨whole, hwhole, places, hplaces, hv⟩ := mem_number.mp h
      · obtain ⟨-, hdigits⟩ := mem_digits_iff.mp h
        have hv := length_le_of_isPrefix hrest fun d hd => hdigits d (List.mem_cons_of_mem _ hd)
        exact hv.trans (takeWhile_length_le_numberExtent rest)
      · obtain ⟨d, whole, rfl, -, hdigits⟩ := mem_digits.mp hwhole
        obtain ⟨rfl, rfl⟩ := List.cons.inj hv
        obtain ⟨hne, hplaces⟩ := mem_digits_iff.mp hplaces
        obtain ⟨tail, rfl⟩ := hrest
        exact length_le_numberExtent hdigits hne hplaces
    · cases hc
    · rw [hc] at hdigit
      cases hdigit

end Number

theorem heads_word {c : Char} (hc : isLetter c) (rest : List Char) :
    Heads (c :: rest) (c :: rest.take (rest.takeWhile isWordChar).length) := by
  apply heads_of_length_le
  · have hword : rest.take (rest.takeWhile isWordChar).length = rest.takeWhile isWordChar :=
      (List.prefix_iff_eq_take.mp (List.takeWhile_prefix _)).symm
    rw [hword, mem_any, mem_word]
    exact .inl ⟨c, _, rfl, hc, fun d => List.mem_takeWhile_imp⟩
  · intro v hv hrest
    obtain ⟨hquote, hdigit⟩ := isLetter_exclusive hc
    obtain ⟨-, h⟩ | ⟨h, -⟩ | ⟨rfl, -⟩ | ⟨-, -, -, h⟩ := cons_mem_any hv
    · obtain ⟨d, cs, hv, -, hcs⟩ := mem_word.mp h
      obtain ⟨-, rfl⟩ := List.cons.inj hv
      exact length_le_of_isPrefix hrest hcs
    · rw [hdigit] at h
      cases h
    · exact absurd rfl hquote
    · rw [hc] at h
      cases h

section Operator

variable {c : Char} {rest v : List Char}

theorem tail_of_mem_operator (h : c :: v ∈ operator) :
    v = [] ∨ c = ':' ∧ v = ['='] ∨ c = '<' ∧ v = ['>'] := by
  simp only [mem_operator, operators, List.map_cons, List.map_nil, List.mem_cons, List.cons.injEq,
    List.not_mem_nil] at h
  grind

theorem tail_of_mem_any (hquote : c ≠ '"') (hdigit : c.isDigit = false)
    (hletter : isLetter c = false) (h : c :: v ∈ any) :
    v = [] ∨ c = ':' ∧ v = ['='] ∨ c = '<' ∧ v = ['>'] := by
  apply tail_of_mem_operator
  simpa [hquote, hdigit, hletter] using cons_mem_any h

theorem heads_pair {d : Char} (hop : [c, d] ∈ operator) (rest : List Char) :
    Heads (c :: d :: rest) (c :: (d :: rest).take 1) := by
  obtain ⟨hquote, hdigit, hletter⟩ := operator_exclusive hop
  have hmem : c :: (d :: rest).take 1 ∈ any := mem_any.mpr (.inr (.inr (.inl hop)))
  apply heads_of_length_le hmem
  intro v hv _
  obtain rfl | ⟨-, rfl⟩ | ⟨-, rfl⟩ := tail_of_mem_any hquote hdigit hletter hv <;> simp

theorem heads_single (hquote : c ≠ '"') (hnil : ∀ v, c :: v ∈ any → v <+: rest → v = []) :
    Heads (c :: rest) (c :: rest.take 0) := by
  by_cases hop : [c] ∈ any
  · apply heads_of_length_le hop
    intro v hv hrest
    simp [hnil v hv hrest]
  · refine .single ?_ rfl hquote
    rintro (_ | ⟨d, v⟩) hv h
    · exact ne_nil_of_mem_any hv rfl
    · obtain ⟨rfl, hrest⟩ := List.cons_prefix_cons.mp h
      rw [hnil v hv hrest] at hv
      exact hop hv

theorem heads_operator (hquote : c ≠ '"') (hdigit : c.isDigit = false)
    (hletter : isLetter c = false) (rest : List Char) :
    Heads (c :: rest) (c :: rest.take (extent c rest)) := by
  unfold extent
  rw [if_neg hquote, if_neg (by simp [hdigit]), if_neg (by simp [hletter])]
  split
  · next h =>
    obtain ⟨rfl, rest, rfl⟩ : c = ':' ∧ ∃ more, rest = '=' :: more := by
      cases rest <;> simp_all
    exact heads_pair (mem_operator.mpr (by decide)) rest
  split
  · next h =>
    obtain ⟨rfl, rest, rfl⟩ : c = '<' ∧ ∃ more, rest = '>' :: more := by
      cases rest <;> simp_all
    exact heads_pair (mem_operator.mpr (by decide)) rest
  · next hassign hneq =>
    apply heads_single hquote
    rintro v hv ⟨more, rfl⟩
    obtain rfl | ⟨rfl, rfl⟩ | ⟨rfl, rfl⟩ := tail_of_mem_any hquote hdigit hletter hv
    · rfl
    · simp at hassign
    · simp at hneq

end Operator

/--
A lexeme is the longest text of a class at the head of the text that it begins, if there is one.
-/
theorem heads_extent (c : Char) (rest : List Char) :
    Heads (c :: rest) (c :: rest.take (extent c rest)) := by
  by_cases hquote : c = '"'
  · rw [hquote]
    exact heads_quoted rest
  by_cases hdigit : c.isDigit
  · have hextent : extent c rest = numberExtent rest := by
      rw [extent, if_neg hquote, if_pos hdigit]
    rw [hextent]
    exact heads_number hdigit rest
  by_cases hletter : isLetter c
  · have hextent : extent c rest = (rest.takeWhile isWordChar).length := by
      rw [extent, if_neg hquote, if_neg hdigit, if_pos hletter]
    rw [hextent]
    exact heads_word hletter rest
  · exact heads_operator hquote (by simpa using hdigit) (by simpa using hletter) rest

end StartEnd.Lexeme
