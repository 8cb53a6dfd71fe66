import StartEnd.Symbol
import StartEnd.Text.Padding

/-!
This module contains the texts that fit in a row, and the rows of a text that is joined from them.
-/

namespace StartEnd.Text

/--
Whether a text fits in a row.
-/
def IsRow (text : String) : Prop := '\n' ∉ text.toList

instance (text : String) : Decidable (IsRow text) := inferInstanceAs (Decidable (_ ∉ _))

theorem isRow_append {first rest : String} : IsRow (first ++ rest) ↔ IsRow first ∧ IsRow rest := by
  unfold IsRow
  rw [String.toList_append, List.mem_append, not_or]

theorem isRow_ofList {cs : List Char} : IsRow (String.ofList cs) ↔ '\n' ∉ cs := by
  unfold IsRow
  rw [String.toList_ofList]

theorem isRow_char {c : Char} : IsRow c.toString ↔ c ≠ '\n' := by
  simp [IsRow, eq_comm]

theorem isRow_toString (n : Nat) : IsRow (toString n) := by
  unfold IsRow
  rw [Nat.toString_eq_repr, Nat.toList_repr]
  intro h
  have hdigit := Nat.isDigit_of_mem_toDigits (by decide) (by decide) h
  cases hdigit

theorem isRow_spaces (n : Nat) : IsRow (spaces n) := by
  simp [IsRow, spaces]

theorem isRow_padLeft (width : Nat) {text : String} (h : IsRow text) : IsRow (padLeft width text) :=
  isRow_append.mpr ⟨isRow_spaces _, h⟩

theorem isRow_intercalate {separator : String} (hseparator : IsRow separator) {texts : List String}
    (h : ∀ text ∈ texts, IsRow text) : IsRow (separator.intercalate texts) := by
  induction texts with
  | nil =>
    rw [String.intercalate_nil]
    decide
  | cons text texts ih =>
    obtain ⟨htext, htexts⟩ := List.forall_mem_cons.mp h
    cases texts with
    | nil => rwa [String.intercalate_singleton]
    | cons =>
      rw [String.intercalate_cons_cons, isRow_append, isRow_append]
      exact ⟨⟨htext, hseparator⟩, ih htexts⟩

theorem isRow_name (s : Symbol) : IsRow s.name := by
  cases s <;> decide

/--
The rows of a text that is joined from rows.
-/
theorem splitOn_intercalate {rows : List String} (hne : rows ≠ []) (h : ∀ row ∈ rows, IsRow row) :
    ("\n".intercalate rows).toList.splitOn '\n' = rows.map String.toList := by
  rw [String.toList_intercalate]
  apply List.splitOn_intercalate
  · simpa [IsRow] using h
  · simpa using hne

end StartEnd.Text
