import StartEnd.Diagnostic.Render
import StartEnd.Proofs.Text.Lines
import StartEnd.Proofs.Text.Row
import StartEnd.Proofs.Token.Cut

/-!
This module contains the proof that the diagnostics of a source text fit in the rows of a snippet:
as no lexeme goes beyond its line, neither does a message about a token.
-/

namespace StartEnd

open Text

namespace Lexeme

theorem Means.isRow_reason {w : List Char} {symbol : Symbol} {reason : String}
    (h : Means w symbol (some (.invalid reason))) (hhead : w.head? ≠ some '\n') :
    IsRow reason := by
  have hkeywords : ∀ row ∈ keywords, ∀ reason, row.2.2 ≠ some (.invalid reason) := by
    simp [keywords]
  generalize hvalue : some (TokenValue.invalid reason) = value at h
  cases h with
  | keyword h => exact absurd hvalue.symm (hkeywords _ h reason)
  | outOfRange hw =>
    obtain rfl := TokenValue.invalid.inj (Option.some.inj hvalue)
    exact isRow_append.mpr ⟨by decide, isRow_ofList.mpr (newline_not_mem_of_mem_digits hw)⟩
  | unknownEscape _ _ hline =>
    obtain rfl := TokenValue.invalid.inj (Option.some.inj hvalue)
    exact isRow_append.mpr ⟨isRow_append.mpr ⟨by decide, isRow_char.mpr hline⟩, by decide⟩
  | unclosed =>
    obtain rfl := TokenValue.invalid.inj (Option.some.inj hvalue)
    decide
  | unexpected =>
    obtain rfl := TokenValue.invalid.inj (Option.some.inj hvalue)
    have hchar := isRow_char.mpr (by simpa using hhead)
    exact isRow_append.mpr ⟨isRow_append.mpr ⟨by decide, hchar⟩, by decide⟩
  | _ => cases hvalue

end Lexeme

namespace Token

open Lexeme

/--
Whether what messages say about a token fits in a row.
-/
structure FitsRow (t : Token) : Prop where
  lexeme : IsRow t.lexeme
  reason : ∀ reason, t.invalidReason? = some reason → IsRow reason

theorem Cut.fitsRow {location : Location} {cs : List Char} {pieces : List Spaced}
    (h : Cut location cs pieces) : ∀ s ∈ pieces, s.token.FitsRow := by
  induction h with
  | eof =>
    rw [List.forall_mem_singleton]
    exact ⟨isRow_ofList.mpr List.not_mem_nil, fun reason hreason => nomatch hreason⟩
  | @lexeme location gap c rest pieces _ hc _ ih =>
    refine List.forall_mem_cons.mpr ⟨?_, ih⟩
    obtain ⟨symbol, value, hmeans⟩ := (heads_extent c rest).exists_means
    have hhead : (c :: rest.take (extent c rest)).head? ≠ some '\n' := by
      rintro h
      obtain rfl := Option.some.inj h
      cases hc
    refine ⟨isRow_ofList.mpr (hmeans.newline_not_mem hhead), fun reason hreason => ?_⟩
    have hvalue : value = some (.invalid reason) := by
      simp only [invalidReason?, Lexeme.token, hmeans.classify_eq] at hreason
      split at hreason
      · rw [← Option.some.inj hreason]
      · cases hreason
    exact (hvalue ▸ hmeans).isRow_reason hhead

theorem fitsRow_of_mem_scan {source : String} {t : Token} (h : t ∈ scan source) : t.FitsRow := by
  obtain ⟨pieces, hcut, hpieces⟩ := exists_cut .start source.toList
  rw [scan, ← hpieces, List.mem_map] at h
  obtain ⟨s, hs, rfl⟩ := h
  exact hcut.fitsRow s hs

theorem FitsRow.describe {t : Token} (h : t.FitsRow) : IsRow t.describe := by
  unfold Token.describe
  have hlexeme : '\n' ∉ t.lexeme.toList := h.lexeme
  split <;> simp [IsRow, hlexeme]

theorem FitsRow.fault {t : Token} (h : t.FitsRow) {complaint : String}
    (hfault : t.fault? = some complaint) : IsRow complaint := by
  unfold fault? at hfault
  split at hfault
  · split at hfault
    · next reason hreason =>
      obtain rfl := Option.some.inj hfault
      exact isRow_append.mpr ⟨isRow_append.mpr ⟨h.describe, by decide⟩, h.reason _ hreason⟩
    · obtain rfl := Option.some.inj hfault
      exact h.describe
  · split at hfault
    · cases hfault
    · obtain rfl := Option.some.inj hfault
      refine isRow_append.mpr ⟨isRow_append.mpr ⟨?_, isRow_name t.symbol⟩, by decide⟩
      exact isRow_append.mpr ⟨isRow_append.mpr ⟨by decide, h.describe⟩, by decide⟩

end Token

namespace Diagnostic

theorem isRow_sourceLine (source : String) (number : Nat) : IsRow (sourceLine source number) := by
  unfold sourceLine
  cases hline : (Text.lines source)[number - 1]? with
  | none => decide
  | some line =>
    obtain ⟨cs, hcs, rfl⟩ := List.mem_map.mp (List.mem_of_getElem? hline)
    exact isRow_ofList.mpr (newline_not_mem_of_mem_linesOf hcs)

theorem isRow_caretIndent (line : String) (column : Nat) : IsRow (caretIndent line column) := by
  rw [caretIndent, isRow_ofList]
  intro h
  obtain ⟨c, -, hc⟩ := List.mem_map.mp h
  split at hc <;> cases hc

theorem isRow_expectedClause (d : Diagnostic) : IsRow d.expectedClause := by
  refine isRow_append.mpr ⟨by decide, isRow_intercalate (by decide) ?_⟩
  intro text h
  obtain ⟨s, -, rfl⟩ := List.mem_map.mp h
  exact isRow_name s

theorem isRow_code (kind : DiagnosticKind) : IsRow kind.code := by
  cases kind <;> decide

/--
If the message of a diagnostic and the name of the file fit in a row, the text of a snippet has the
rows of the snippet.
-/
theorem splitOn_render {d : Diagnostic} (hmessage : IsRow d.message) (source : String)
    {file : String} (hfile : IsRow file) :
    (d.render source file).toList.splitOn '\n' = (d.rows source file).map String.toList := by
  apply splitOn_intercalate
  · simp [rows]
  · have hgap := isRow_spaces d.gutter
    have hplace : IsRow d.location.text :=
      isRow_append.mpr ⟨isRow_append.mpr ⟨isRow_toString _, by decide⟩, isRow_toString _⟩
    have hnumber := isRow_padLeft d.gutter (isRow_toString d.location.line)
    unfold rows
    rw [List.forall_mem_append]
    constructor
    · simp only [List.forall_mem_cons, isRow_append, isRow_code, isRow_caretIndent,
        isRow_sourceLine, hmessage, hfile, hgap, hplace, hnumber, true_and, and_true]
      decide
    · split
      · exact List.forall_mem_nil _
      · simp only [List.forall_mem_singleton, isRow_append, isRow_expectedClause, hgap, true_and,
          and_true]
        decide

end Diagnostic

end StartEnd
