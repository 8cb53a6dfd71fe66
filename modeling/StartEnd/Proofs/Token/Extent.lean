import Mathlib.Data.List.TakeWhile
import StartEnd.Token.Lexeme

/-!
This module contains the proof that lexemes do not depend on their neighbours: a lexeme that is put in
front of a blank, or at the end of a text, reaches as far as it did where it was found.
-/

namespace StartEnd.Lexeme

/--
Whether a text that follows a lexeme keeps apart from it.
-/
def Apart (tail : List Char) : Prop := ∀ c ∈ tail.head?, isBlank c

theorem isBlank_iff {c : Char} :
    isBlank c ↔ c = ' ' ∨ c = '\t' ∨ c = '\r' ∨ c = '\n' := by
  simp [isBlank, or_assoc]

theorem mem_blanks {c : Char} : c ∈ [' ', '\t', '\r', '\n'] ↔ isBlank c := by
  rw [isBlank_iff]
  simp

section Apart

variable {tail : List Char} (h : Apart tail)

include h

theorem Apart.head?_ne {c : Char} (hc : isBlank c = false) : tail.head? ≠ some c := by
  intro hhead
  have hblank := h c hhead
  rw [hc] at hblank
  contradiction

theorem Apart.takeWhile_append {p : Char → Bool} (hp : ∀ c, isBlank c → p c = false)
    {l : List Char} (hl : ∀ c ∈ l, p c) : (l ++ tail).takeWhile p = l := by
  rw [List.takeWhile_append_of_pos hl]
  cases tail with
  | nil => simp
  | cons c tail => simp [hp c (h c rfl)]

theorem Apart.dropWhile_append {p : Char → Bool} (hp : ∀ c, isBlank c → p c = false)
    {l : List Char} (hl : ∀ c ∈ l, p c) : (l ++ tail).dropWhile p = tail := by
  rw [List.dropWhile_append_of_pos hl]
  cases tail with
  | nil => rfl
  | cons c tail => simp [hp c (h c rfl)]

end Apart

theorem isDigit_of_isBlank (c : Char) (h : isBlank c) : c.isDigit = false := by
  obtain rfl | rfl | rfl | rfl := isBlank_iff.mp h <;> rfl

theorem isWordChar_of_isBlank (c : Char) (h : isBlank c) : isWordChar c = false := by
  obtain rfl | rfl | rfl | rfl := isBlank_iff.mp h <;> rfl

section Quoted

variable (rest : List Char)

theorem quotedExtent_quote : quotedExtent ('"' :: rest) = 1 := by
  rw [quotedExtent.eq_def]
  rfl

theorem quotedExtent_newline : quotedExtent ('\n' :: rest) = 0 := by
  rw [quotedExtent.eq_def]
  rfl

theorem quotedExtent_backslash_newline : quotedExtent ('\\' :: '\n' :: rest) = 1 := by
  rw [quotedExtent.eq_def]
  rfl

theorem quotedExtent_backslash {d : Char} (hd : d ≠ '\n') :
    quotedExtent ('\\' :: d :: rest) = quotedExtent rest + 2 := by
  rw [quotedExtent.eq_def]
  simp [hd]

theorem quotedExtent_cons {c : Char} (hquote : c ≠ '"') (hline : c ≠ '\n') (hescape : c ≠ '\\') :
    quotedExtent (c :: rest) = quotedExtent rest + 1 := by
  rw [quotedExtent.eq_def]
  simp [hquote, hline, hescape]

theorem unquote_backslash (d : Char) :
    unquote ('\\' :: d :: rest) = (unquote rest).escaped d := by
  rw [unquote.eq_def]
  rfl

theorem unquote_cons {c : Char} (hquote : c ≠ '"') (hescape : c ≠ '\\') :
    unquote (c :: rest) = (unquote rest).cons c := by
  rw [unquote.eq_def]
  simp [hquote, hescape]

theorem Quoted.escaped_unterminated (c : Char) : unterminated.escaped c = unterminated := by
  unfold escaped
  cases escape? c <;> rfl

/--
A literal that is not closed ends with its line, and may only be followed by the end of the line.
-/
theorem quotedExtent_take {tail : List Char}
    (h : unquote (rest.take (quotedExtent rest)) = .unterminated →
      tail = [] ∨ tail.head? = some '\n') :
    quotedExtent (rest.take (quotedExtent rest) ++ tail)
      =
    (rest.take (quotedExtent rest)).length := by
  have hline (h : tail = [] ∨ tail.head? = some '\n') :
      quotedExtent tail = 0 ∧ quotedExtent ('\\' :: tail) = 1 := by
    cases tail with
    | nil => exact ⟨rfl, rfl⟩
    | cons c tail =>
      obtain rfl : c = '\n' := by simpa using h
      exact ⟨quotedExtent_newline tail, quotedExtent_backslash_newline tail⟩
  induction rest using quotedExtent.induct with
  | case1 => exact (hline (h rfl)).1
  | case2 rest =>
    rw [quotedExtent_quote] at h ⊢
    exact quotedExtent_quote tail
  | case3 rest =>
    rw [quotedExtent_newline] at h ⊢
    exact (hline (h rfl)).1
  | case4 => exact (hline (h rfl)).2
  | case5 rest =>
    rw [quotedExtent_backslash_newline] at h ⊢
    exact (hline (h rfl)).2
  | case6 d rest hd _ _ ih =>
    rw [quotedExtent_backslash rest hd] at h ⊢
    simp only [List.take_succ_cons, List.cons_append, List.length_cons] at h ⊢
    rw [quotedExtent_backslash _ hd, ih]
    intro hopen
    apply h
    rw [unquote_backslash, hopen, Quoted.escaped_unterminated]
  | case7 c rest hquote hline hescape ih =>
    rw [quotedExtent_cons rest hquote hline hescape] at h ⊢
    simp only [List.take_succ_cons, List.cons_append, List.length_cons] at h ⊢
    rw [quotedExtent_cons _ hquote hline hescape, ih]
    intro hopen
    apply h
    rw [unquote_cons _ hquote hescape, hopen]
    rfl

end Quoted

section Number

/--
The digits at the head of a number, and possibly a point with more digits behind them.
-/
theorem take_numberExtent (rest : List Char) :
    ∃ digits, (∀ c ∈ digits, c.isDigit) ∧ (rest.take (numberExtent rest) = digits
      ∨ ∃ places, places ≠ [] ∧ (∀ c ∈ places, c.isDigit)
          ∧ rest.take (numberExtent rest) = digits ++ '.' :: places) := by
  refine ⟨rest.takeWhile Char.isDigit, fun c => List.mem_takeWhile_imp, ?_⟩
  have hwhole : rest.take (rest.takeWhile Char.isDigit).length = rest.takeWhile Char.isDigit :=
    (List.prefix_iff_eq_take.mp (List.takeWhile_prefix _)).symm
  unfold numberExtent
  split
  · next fraction hrest =>
    split
    · exact .inl hwhole
    · next hplaces =>
      refine .inr ⟨fraction.takeWhile Char.isDigit, ?_, fun c => List.mem_takeWhile_imp, ?_⟩
      · exact fun hnil => hplaces (by rw [hnil]; rfl)
      · have hpoint (digits : List Char) :
            (digits ++ '.' :: fraction).take
                (digits.length + 1 + (fraction.takeWhile Char.isDigit).length)
              = digits ++ '.' :: fraction.takeWhile Char.isDigit := by
          rw [Nat.add_assoc, List.take_length_add_append, Nat.add_comm 1, List.take_succ_cons,
            ← List.prefix_iff_eq_take.mp (List.takeWhile_prefix _)]
        have hpoint := hpoint (rest.takeWhile Char.isDigit)
        rwa [← hrest, List.takeWhile_append_dropWhile] at hpoint
  · exact .inl hwhole

variable {digits tail : List Char} (hdigits : ∀ c ∈ digits, c.isDigit) (h : Apart tail)

include hdigits h

theorem numberExtent_digits : numberExtent (digits ++ tail) = digits.length := by
  unfold numberExtent
  rw [h.takeWhile_append isDigit_of_isBlank hdigits, h.dropWhile_append isDigit_of_isBlank hdigits]
  split
  · exact absurd rfl (h.head?_ne (c := '.') rfl)
  · rfl

theorem numberExtent_point {places : List Char} (hne : places ≠ [])
    (hplaces : ∀ c ∈ places, c.isDigit) :
    numberExtent (digits ++ '.' :: places ++ tail) = (digits ++ '.' :: places).length := by
  unfold numberExtent
  rw [List.append_assoc, List.takeWhile_append_of_pos hdigits, List.dropWhile_append_of_pos hdigits]
  have hpoint : ('.').isDigit = false := rfl
  simp only [List.cons_append, List.takeWhile_cons_of_neg, List.dropWhile_cons_of_neg, hpoint,
    Bool.false_eq_true, not_false_eq_true, List.append_nil,
    h.takeWhile_append isDigit_of_isBlank hplaces]
  rw [List.length_append, List.length_cons]
  split
  · next hlength => exact absurd (List.length_eq_zero_iff.mp hlength) hne
  · omega

end Number

theorem numberExtent_take (rest : List Char) {tail : List Char} (h : Apart tail) :
    numberExtent (rest.take (numberExtent rest) ++ tail)
      =
    (rest.take (numberExtent rest)).length := by
  obtain ⟨digits, hdigits, hwhole | ⟨places, hne, hplaces, hpoint⟩⟩ := take_numberExtent rest
  · rw [hwhole]
    exact numberExtent_digits hdigits h
  · rw [hpoint]
    exact numberExtent_point hdigits h hne hplaces

theorem wordExtent_take (rest : List Char) {tail : List Char} (h : Apart tail) :
    let word := rest.take (rest.takeWhile isWordChar).length
    ((word ++ tail).takeWhile isWordChar).length = word.length := by
  intro word
  have hword : word = rest.takeWhile isWordChar :=
    (List.prefix_iff_eq_take.mp (List.takeWhile_prefix _)).symm
  rw [hword, h.takeWhile_append isWordChar_of_isBlank fun c => List.mem_takeWhile_imp]

/--
A lexeme reaches as far as it did once it has been cut out and put in front of a blank. A string
literal that is not closed would take the blank, unless it is the end of a line.
-/
theorem extent_take (c : Char) (rest : List Char) {tail : List Char} (h : Apart tail)
    (hquoted : c = '"' → unquote (rest.take (extent c rest)) = .unterminated →
      tail = [] ∨ tail.head? = some '\n') :
    extent c (rest.take (extent c rest) ++ tail) = (rest.take (extent c rest)).length := by
  unfold extent at hquoted ⊢
  split
  · next hc =>
    simp only [if_pos hc] at hquoted
    exact quotedExtent_take rest (hquoted hc)
  split
  · exact numberExtent_take rest h
  split
  · exact wordExtent_take rest h
  have hassign := h.head?_ne (c := '=') rfl
  have hneq := h.head?_ne (c := '>') rfl
  split
  · next hop =>
    obtain ⟨hc, rest, rfl⟩ : c = ':' ∧ ∃ rest', rest = '=' :: rest' := by
      cases rest <;> simp_all
    simp [hc]
  split
  · next hop =>
    obtain ⟨hc, rest, rfl⟩ : c = '<' ∧ ∃ rest', rest = '>' :: rest' := by
      cases rest <;> simp_all
    simp [hc]
  · simp [hassign, hneq]

end StartEnd.Lexeme
