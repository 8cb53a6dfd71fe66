import Mathlib.Data.List.TakeWhile
import StartEnd.Text.Lines

/-!
This module contains the proof that a place in a text and the lines of the text agree: the line that
has as many lines in front of it as there are line feeds in front of the place shows what stands in
front of the place, from the last line feed on.
-/

namespace StartEnd.Text

/--
What follows the last line feed of a text.
-/
def lastLine (cs : List Char) : List Char := (cs.reverse.takeWhile (· ≠ '\n')).reverse

theorem lastLine_of_not_mem {cs : List Char} (h : '\n' ∉ cs) : lastLine cs = cs := by
  unfold lastLine
  rw [List.takeWhile_eq_self_iff.mpr, List.reverse_reverse]
  intro c hc
  rw [List.mem_reverse] at hc
  simpa using ne_of_mem_of_not_mem hc h

theorem lastLine_append_newline (first rest : List Char) :
    lastLine (first ++ '\n' :: rest) = lastLine rest := by
  unfold lastLine
  rw [List.reverse_append, List.reverse_cons, List.append_assoc, List.takeWhile_append]
  split
  · next h =>
    have hall : rest.reverse.takeWhile (· ≠ '\n') = rest.reverse :=
      (List.takeWhile_prefix _).eq_of_length h
    rw [hall]
    simp
  · rfl

theorem pieces_append_newline {first : List Char} (h : '\n' ∉ first) (rest : List Char) :
    pieces (first ++ '\n' :: rest) = first :: pieces rest := by
  induction first with
  | nil => simp [pieces]
  | cons c first ih =>
    obtain ⟨hc, hfirst⟩ := not_or.mp (List.mem_cons.not.mp h)
    rw [List.cons_append, pieces, if_neg (Ne.symm hc), ih hfirst]

theorem pieces_of_not_mem {cs : List Char} (h : '\n' ∉ cs) : pieces cs = [cs] := by
  induction cs with
  | nil => rfl
  | cons c cs ih =>
    obtain ⟨hc, hcs⟩ := not_or.mp (List.mem_cons.not.mp h)
    rw [pieces, if_neg (Ne.symm hc), ih hcs]

theorem pieces_ne_nil (cs : List Char) : pieces cs ≠ [] := by
  cases cs with
  | nil => simp [pieces]
  | cons c cs =>
    rw [pieces]
    split
    · simp
    · split <;> simp

theorem linesOf_append_newline {first : List Char} (h : '\n' ∉ first) (rest : List Char) :
    linesOf (first ++ '\n' :: rest) = withoutReturn first :: linesOf rest := by
  obtain ⟨piece, more, hpieces⟩ := List.exists_cons_of_ne_nil (pieces_ne_nil rest)
  unfold linesOf
  rw [pieces_append_newline h, hpieces]
  simp only [List.dropLast_cons_cons, List.map_cons, List.getLast?_cons_cons]
  split <;> rfl

theorem linesOf_of_not_mem {cs : List Char} (h : '\n' ∉ cs) (hne : cs ≠ []) : linesOf cs = [cs] := by
  obtain ⟨c, cs, rfl⟩ := List.exists_cons_of_ne_nil hne
  unfold linesOf
  rw [pieces_of_not_mem h]
  rfl

theorem withoutReturn_append (before : List Char) {c : Char} (hc : c ≠ '\r') (rest : List Char) :
    ∃ more, withoutReturn (before ++ c :: rest) = before ++ c :: more := by
  unfold withoutReturn
  split
  · next hlast =>
    cases rest with
    | nil =>
      obtain rfl : c = '\r' := by simpa using hlast
      exact absurd rfl hc
    | cons d rest =>
      exact ⟨(d :: rest).dropLast, by
        rw [List.dropLast_append_of_ne_nil (by simp), List.dropLast_cons_cons]⟩
  · exact ⟨rest, rfl⟩

theorem newline_not_mem_of_mem_pieces {cs piece : List Char} (h : piece ∈ pieces cs) :
    '\n' ∉ piece := by
  induction cs generalizing piece with
  | nil =>
    obtain rfl := List.mem_singleton.mp h
    exact List.not_mem_nil
  | cons c cs ih =>
    rw [pieces] at h
    split at h
    · obtain rfl | h := List.mem_cons.mp h
      · exact List.not_mem_nil
      · exact ih h
    · next hc =>
      split at h
      · next hnil => exact absurd hnil (pieces_ne_nil cs)
      · next first rest hcons =>
        obtain rfl | h := List.mem_cons.mp h
        · rw [List.mem_cons, not_or]
          exact ⟨Ne.symm hc, ih (by simp [hcons])⟩
        · exact ih (by simp [hcons, h])

theorem withoutReturn_sublist (line : List Char) : (withoutReturn line).Sublist line := by
  unfold withoutReturn
  split
  · exact List.dropLast_sublist line
  · exact List.Sublist.refl line

theorem newline_not_mem_of_mem_linesOf {cs line : List Char} (h : line ∈ linesOf cs) :
    '\n' ∉ line := by
  have hended (h : line ∈ (pieces cs).dropLast.map withoutReturn) : '\n' ∉ line := by
    obtain ⟨piece, hpiece, rfl⟩ := List.mem_map.mp h
    have := newline_not_mem_of_mem_pieces (List.dropLast_subset _ hpiece)
    exact fun hmem => this ((withoutReturn_sublist piece).mem hmem)
  simp only [linesOf] at h
  split at h
  · exact hended h
  · exact hended h
  · next last _ hlast =>
    obtain h | h := List.mem_append.mp h
    · exact hended h
    · obtain rfl := List.mem_singleton.mp h
      exact newline_not_mem_of_mem_pieces (List.mem_of_getLast? hlast)

/--
The line of a place shows the text in front of the place from the last line feed on, and what
follows the place if that is no end of a line.
-/
theorem exists_line (before rest : List Char)
    (h : ∀ c ∈ rest.head?, c ≠ '\n' ∧ c ≠ '\r') :
    ∃ more, ((linesOf (before ++ rest))[before.count '\n']?).getD [] = lastLine before ++ more
      ∧ more.head? = rest.head? := by
  induction hn : before.count '\n' generalizing before with
  | zero =>
    have hbefore : '\n' ∉ before := List.count_eq_zero.mp hn
    rw [lastLine_of_not_mem hbefore]
    by_cases hrest : '\n' ∈ rest
    · obtain ⟨line, next, rfl, hline⟩ := List.eq_append_cons_of_mem hrest
      cases line with
      | nil => simp at h
      | cons c line =>
        have hnot : '\n' ∉ before ++ c :: line := by simp [hbefore, hline]
        obtain ⟨more, hmore⟩ := withoutReturn_append before (h c rfl).2 line
        rw [← List.append_assoc, linesOf_append_newline hnot, hmore]
        exact ⟨c :: more, rfl, rfl⟩
    · refine ⟨rest, ?_, rfl⟩
      by_cases hne : before ++ rest = []
      · rw [hne]
        rfl
      · rw [linesOf_of_not_mem (by simp [hbefore, hrest]) hne]
        rfl
  | succ n ih =>
    have hmem : '\n' ∈ before := List.count_pos_iff.mp (by omega)
    obtain ⟨first, before, rfl, hfirst⟩ := List.eq_append_cons_of_mem hmem
    have hcount : before.count '\n' = n := by
      rw [List.count_append, List.count_cons_self, List.count_eq_zero.mpr hfirst] at hn
      omega
    rw [lastLine_append_newline, List.append_assoc, List.cons_append,
      linesOf_append_newline hfirst, List.getElem?_cons_succ]
    exact ih before hcount

end StartEnd.Text
