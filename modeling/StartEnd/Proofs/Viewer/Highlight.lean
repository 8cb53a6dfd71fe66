import StartEnd.Proofs.Token.Extent
import StartEnd.Token.Scan
import StartEnd.Viewer.Highlight

/-!
This module contains the proof that highlighting keeps the text of a line and agrees with scanning
on its strings: both of them find the same quoted parts.
-/

namespace StartEnd

/--
Whether a piece of text begins with a quote.
-/
def isQuoted (piece : String) : Bool := piece.toList.head? = some '"'

theorem isQuoted_quote (cs : List Char) : isQuoted (String.ofList ('"' :: cs)) = true := by
  simp [isQuoted]

theorem isQuoted_cons {c : Char} (h : c ≠ '"') (cs : List Char) :
    ¬ isQuoted (String.ofList (c :: cs)) := by
  simp [isQuoted, h]

theorem quote_not_mem_of_all {p : Char → Bool} (hp : p '"' = false) {cs : List Char}
    (h : ∀ c ∈ cs, p c) : '"' ∉ cs := by
  intro hmem
  have hquote := h _ hmem
  rw [hp] at hquote
  cases hquote

namespace Highlight

theorem isWordPart_quote : isWordPart '"' = false := by decide

/--
The parts of a line that begin with a quote. What stands between them is passed over one character
at a time.
-/
def quoted (cs : List Char) : List String :=
  match cs with
  | [] => []
  | c :: rest =>
    if c = '"' then
      String.ofList (c :: rest.take (stringLength rest)) :: quoted (rest.drop (stringLength rest))
    else quoted rest
termination_by cs.length
decreasing_by
  · simp only [List.length_cons, List.length_drop]
    omega
  · simp

theorem quoted_nil : quoted [] = [] := by
  rw [quoted]

theorem quoted_quote (rest : List Char) :
    quoted ('"' :: rest)
      =
    String.ofList ('"' :: rest.take (stringLength rest))
      :: quoted (rest.drop (stringLength rest)) := by
  rw [quoted, if_pos rfl]

theorem quoted_cons {c : Char} (h : c ≠ '"') (rest : List Char) :
    quoted (c :: rest) = quoted rest := by
  rw [quoted, if_neg h]

theorem quoted_append {front : List Char} (h : '"' ∉ front) (rest : List Char) :
    quoted (front ++ rest) = quoted rest := by
  induction front with
  | nil => rfl
  | cons c front ih =>
    rw [List.mem_cons, not_or] at h
    rw [List.cons_append, quoted_cons (Ne.symm h.1), ih h.2]

section Spans

variable (cs : List Char)

theorem flatMap_spans : (spans cs).flatMap (fun s => s.text.toList) = cs := by
  fun_induction spans cs with
  | case1 => rfl
  | case2 rest ih => simp [ih]
  | case3 c rest _ _ word behind ih => simp [ih, word, behind]
  | case4 c rest _ _ ih => simp [ih]

theorem text_ne_empty : ∀ s ∈ spans cs, s.text ≠ "" := by
  fun_induction spans cs with
  | case1 => simp
  | case2 rest ih => exact List.forall_mem_cons.mpr ⟨by simp, ih⟩
  | case3 c rest _ _ word behind ih => exact List.forall_mem_cons.mpr ⟨by simp [word], ih⟩
  | case4 c rest _ _ ih => exact List.forall_mem_cons.mpr ⟨by simp, ih⟩

theorem filter_spans : ((spans cs).map Span.text).filter isQuoted = quoted cs := by
  fun_induction spans cs with
  | case1 =>
    rw [quoted_nil]
    rfl
  | case2 rest ih =>
    rw [quoted_quote, List.map_cons, List.filter_cons_of_pos (isQuoted_quote _), ih]
  | case3 c rest hc _ word behind ih =>
    have hword : '"' ∉ rest.takeWhile isWordPart :=
      quote_not_mem_of_all isWordPart_quote fun d => List.mem_takeWhile_imp
    rw [List.map_cons, List.filter_cons_of_neg (isQuoted_cons hc _), ih, quoted_cons hc,
      ← quoted_append hword behind, List.takeWhile_append_dropWhile]
  | case4 c rest hc _ ih =>
    rw [List.map_cons, List.filter_cons_of_neg (by simp [isQuoted, hc]), ih, quoted_cons hc]

end Spans

end Highlight

namespace Lexeme

/--
A lexeme that begins with another character than a quote contains none.
-/
theorem quote_not_mem_take {c : Char} (hc : c ≠ '"') (rest : List Char) :
    '"' ∉ rest.take (extent c rest) := by
  unfold extent
  rw [if_neg hc]
  split
  · obtain ⟨digits, hdigits, hwhole | ⟨places, -, hplaces, hpoint⟩⟩ := take_numberExtent rest
    · rw [hwhole]
      exact quote_not_mem_of_all rfl hdigits
    · rw [hpoint, List.mem_append, List.mem_cons, not_or, not_or]
      exact ⟨quote_not_mem_of_all rfl hdigits, by decide, quote_not_mem_of_all rfl hplaces⟩
  split
  · rw [← List.prefix_iff_eq_take.mp (List.takeWhile_prefix _)]
    exact quote_not_mem_of_all (p := isWordChar) rfl fun d => List.mem_takeWhile_imp
  split
  · next h =>
    have hhead : rest.head? = some '=' := by simpa using (Bool.and_eq_true_iff.mp h).2
    simp [List.take_one, hhead]
  split
  · next h =>
    have hhead : rest.head? = some '>' := by simpa using (Bool.and_eq_true_iff.mp h).2
    simp [List.take_one, hhead]
  · simp

/--
On a single line, both ways to read a string literal reach the same character.
-/
theorem quotedExtent_eq_stringLength {rest : List Char} (h : '\n' ∉ rest) :
    quotedExtent rest = Highlight.stringLength rest := by
  fun_induction Highlight.stringLength rest with
  | case1 => rfl
  | case2 rest => exact quotedExtent_quote rest
  | case3 => rfl
  | case4 d rest _ ih =>
    simp only [List.mem_cons, not_or] at h
    rw [quotedExtent_backslash rest (Ne.symm h.2.1), ih h.2.2]
  | case5 c rest hquote hescape ih =>
    simp only [List.mem_cons, not_or] at h
    rw [quotedExtent_cons rest hquote (Ne.symm h.1) hescape, ih h.2]

/--
What a lexeme adds to the quoted parts of its line.
-/
theorem quoted_cons_eq {c : Char} {rest : List Char} (h : '\n' ∉ rest) :
    Highlight.quoted (c :: rest)
      =
    [String.ofList (c :: rest.take (extent c rest))].filter isQuoted
      ++ Highlight.quoted (rest.drop (extent c rest)) := by
  by_cases hc : c = '"'
  · subst hc
    have hextent : extent '"' rest = Highlight.stringLength rest := quotedExtent_eq_stringLength h
    rw [hextent, Highlight.quoted_quote, List.filter_cons_of_pos (isQuoted_quote _)]
    rfl
  · rw [Highlight.quoted_cons hc, List.filter_cons_of_neg (isQuoted_cons hc _), List.filter_nil,
      List.nil_append, ← Highlight.quoted_append (quote_not_mem_take hc rest) (rest.drop _),
      List.take_append_drop]

end Lexeme

namespace Token

open Lexeme

theorem filter_scanFrom (location : Location) {cs : List Char} (h : '\n' ∉ cs) :
    ((scanFrom location cs).map Token.lexeme).filter isQuoted = Highlight.quoted cs := by
  have hgap (cs : List Char) : '"' ∉ cs.takeWhile isBlank :=
    quote_not_mem_of_all (p := isBlank) rfl fun _ => List.mem_takeWhile_imp
  fun_induction scanFrom location cs with
  | case1 location cs here hdrop =>
    rw [← List.takeWhile_append_dropWhile (p := isBlank) (l := cs), hdrop,
      Highlight.quoted_append (hgap cs), Highlight.quoted_nil]
    rfl
  | case2 location cs here c rest hcons lexeme ih =>
    have hcs := List.takeWhile_append_dropWhile (p := isBlank) (l := cs)
    rw [hcons] at hcs
    have hrest : '\n' ∉ rest := fun hmem => h (by rw [← hcs]; simp [hmem])
    have ih := ih fun hmem => hrest (List.mem_of_mem_drop hmem)
    rw [← hcs, Highlight.quoted_append (hgap cs), quoted_cons_eq hrest, ← ih, ← List.filter_append]
    rfl

end Token

/--
Highlighting a line keeps its text, in pieces none of which is empty, and the pieces that begin with
a quote are the lexemes that do so when the line is scanned: literals that are closed, those with an
unknown escape, and those that are not closed.
-/
theorem Highlight.spans_agree (line : String) (h : '\n' ∉ line.toList) :
    (spans line.toList).flatMap (fun s => s.text.toList) = line.toList
      ∧ (∀ s ∈ spans line.toList, s.text ≠ "")
      ∧ ((spans line.toList).map Span.text).filter isQuoted
        =
      ((Token.scan line).map Token.lexeme).filter isQuoted :=
  ⟨flatMap_spans line.toList, text_ne_empty line.toList,
    (filter_spans line.toList).trans (Token.filter_scanFrom .start h).symm⟩

theorem Highlight.spans_agree_unclosed :
    let line := "f(\"a \\\" b\", \"\\q\") x\"y\\"
    '\n' ∉ line.toList
      ∧ (spans line.toList).flatMap (fun s => s.text.toList) = line.toList
      ∧ (∀ s ∈ spans line.toList, s.text ≠ "")
      ∧ ((spans line.toList).map Span.text).filter isQuoted
        =
      ((Token.scan line).map Token.lexeme).filter isQuoted := by
  intro line
  have h : '\n' ∉ line.toList := by decide
  exact ⟨h, spans_agree line h⟩

end StartEnd
