import StartEnd.Proofs.Diagnostic.Rows
import StartEnd.Proofs.Failure
import StartEnd.Proofs.Layout

/-!
This module contains the proof that the snippet of a diagnostic points at the offending token: the
caret stands under the first character of the token, or behind the source text if the parse has
reached its end.
-/

namespace StartEnd

open Text

namespace Token

open Lexeme Spaced

/--
A token is located by the text in front of it. It is the end of that text that ends its line at most.
-/
theorem exists_place {source : String} {t : Token} (h : t ∈ scan source) :
    ∃ before rest, source.toList = before ++ rest ∧ t.location = .behind before
      ∧ (∀ c ∈ rest.head?, isBlank c = false)
      ∧ (t.symbol ≠ .eof → ∃ c, t.lexeme.toList.head? = some c ∧ rest.head? = some c) := by
  obtain ⟨pieces, hcut, hpieces⟩ := exists_cut .start source.toList
  rw [scan, ← hpieces, List.mem_map] at h
  obtain ⟨s, hs, rfl⟩ := h
  obtain ⟨first, last, rfl⟩ := List.append_of_mem hs
  have hrest := hcut.of_append (by simp)
  have hsource : source.toList = (textOf first ++ s.gap) ++ (s.token.lexeme.toList ++ textOf last) := by
    rw [← hcut.textOf_eq, textOf_append, textOf_cons, List.append_assoc]
  have hlocation : s.token.location = .behind (textOf first ++ s.gap) := by
    rw [hrest.head_location, ← Location.after_append, Location.start_after]
  refine ⟨_, _, hsource, hlocation, ?_, ?_⟩
  · generalize textOf (s :: last) = text at hrest
    cases hrest with
    | eof => simp [eof]
    | lexeme _ hc => simpa [Lexeme.token] using hc
  · intro hsymbol
    generalize textOf (s :: last) = text at hrest
    cases hrest with
    | eof => exact absurd rfl hsymbol
    | lexeme => simp [Lexeme.token]

theorem completed_scan (source : String) : Session.completed (scan source) = scan source := by
  obtain ⟨pieces, hcut, hpieces⟩ := exists_cut .start source.toList
  obtain ⟨words, gap, rfl, -⟩ := hcut.exists_last
  rw [scan, ← hpieces, Session.completed]
  simp [eof]

end Token

theorem Ends.isRow_message {g : Grammar} {maxDepth : Nat} {c : Config} {d : Diagnostic}
    (h : Ends g maxDepth c (.halt d)) (hrest : ∀ t ∈ c.rest, t.FitsRow) : IsRow d.message := by
  cases h with
  | badToken hfault => exact (hrest _ List.mem_cons_self).fault hfault
  | unexpected =>
    exact isRow_append.mpr ⟨by decide, (hrest _ List.mem_cons_self).describe⟩
  | tooDeep =>
    exact isRow_append.mpr ⟨isRow_append.mpr ⟨by decide, isRow_toString _⟩, by decide⟩

/--
What the rows of a snippet show: a gutter that is blank but for the number of the line, the line,
and what stands in front of the caret.
-/
structure Snippet where
  gap : String
  number : String
  line : String
  indent : String

namespace Snippet

def rows (s : Snippet) (d : Diagnostic) (file : String) : List String :=
  ["error[" ++ d.kind.code ++ "]: " ++ d.message,
    s.gap ++ "--> " ++ file ++ ":" ++ d.location.text,
    s.gap ++ " |",
    s.number ++ " | " ++ s.line,
    s.gap ++ " | " ++ s.indent ++ "^"]
    ++ if d.expected = [] then []
      else [s.gap ++ " = expected one of: " ++ ", ".intercalate (d.expected.map Symbol.name)]

/--
Whether a snippet is what is rendered of a diagnostic, and points at the token that the diagnostic is
about. A line that does not exist is shown as an empty one. In front of the caret there is a
character for each character of the line, which is a tab where the line has one. The rows can be
told apart in the rendered text unless the name of the file breaks a row.
-/
structure PointsAt (s : Snippet) (source file : String) (d : Diagnostic) (t : Token) : Prop where
  token : d.token = some t
  location : d.location = t.location
  rendered : d.render source file = "\n".intercalate (s.rows d file)
  rows : '\n' ∉ file.toList →
    (d.render source file).toList.splitOn '\n' = (s.rows d file).map String.toList
  gap : ∀ c ∈ s.gap.toList, c = ' '
  number : ∃ n, s.number = spaces n ++ toString d.location.line
  gutter : s.number.length = s.gap.length
  counted : 1 ≤ d.location.line ∧ 1 ≤ d.location.column
  line : s.line = ((Text.lines source)[d.location.line - 1]?).getD ""
  indent : s.indent.length = d.location.column - 1
  tabs : ∀ i < d.location.column - 1, ∃ c, s.line.toList[i]? = some c
    ∧ s.indent.toList[i]? = some (if c = '\t' then '\t' else ' ')
  caret : t.symbol ≠ .eof → ∃ c, t.lexeme.toList.head? = some c
    ∧ s.line.toList[d.location.column - 1]? = some c

/--
The snippet that is rendered.
-/
def ofDiagnostic (d : Diagnostic) (source : String) : Snippet where
  gap := spaces d.gutter
  number := padLeft d.gutter (toString d.location.line)
  line := Diagnostic.sourceLine source d.location.line
  indent := Diagnostic.caretIndent (Diagnostic.sourceLine source d.location.line) d.location.column

theorem rows_ofDiagnostic (d : Diagnostic) (source file : String) :
    (ofDiagnostic d source).rows d file = d.rows source file := by
  have hclause (gap : String) :
      gap ++ " = expected one of: " ++ ", ".intercalate (d.expected.map Symbol.name)
        = gap ++ " = " ++ d.expectedClause := by
    have hsign : " = expected one of: " = " = " ++ "expected one of: " := rfl
    show _ = gap ++ " = " ++ ("expected one of: " ++ _)
    rw [hsign, String.append_assoc, String.append_assoc, String.append_assoc]
  simp only [rows, Diagnostic.rows, ofDiagnostic, List.isEmpty_iff, hclause]

theorem toList_sourceLine (source : String) (number : Nat) :
    (Diagnostic.sourceLine source number).toList
      =
    ((linesOf source.toList)[number - 1]?).getD [] := by
  unfold Diagnostic.sourceLine Text.lines
  rw [List.getElem?_map]
  cases (linesOf source.toList)[number - 1]? <;> simp

theorem length_number (d : Diagnostic) (source : String) :
    (ofDiagnostic d source).number.length = (ofDiagnostic d source).gap.length := by
  have hle : (toString d.location.line).length ≤ d.gutter := Nat.le_max_left ..
  simp only [ofDiagnostic, padLeft, spaces, String.length_append, String.length_ofList,
    List.length_replicate]
  omega

/--
The line of the place behind a text begins with what stands in front of the place on its line.
-/
theorem exists_line {source : String} {before rest : List Char}
    (hsource : source.toList = before ++ rest)
    (hrest : ∀ c ∈ rest.head?, Lexeme.isBlank c = false) :
    let location := Location.behind before
    ∃ first more, (Diagnostic.sourceLine source location.line).toList = first ++ more
      ∧ first.length = location.column - 1 ∧ more.head? = rest.head? := by
  intro location
  have hends : ∀ c ∈ rest.head?, c ≠ '\n' ∧ c ≠ '\r' := by
    intro c hc
    have hblank := hrest c hc
    constructor <;> rintro rfl <;> cases hblank
  obtain ⟨more, hline, hmore⟩ := Text.exists_line before rest hends
  refine ⟨lastLine before, more, ?_, ?_, hmore⟩
  · rw [← hline, ← hsource, toList_sourceLine]
    simp [location, Location.behind]
  · simp [location, Location.behind, lastLine]

theorem pointsAt {d : Diagnostic} {source : String} {t : Token} (ht : t ∈ Token.scan source)
    (htoken : d.token = some t) (hlocation : d.location = t.location) (hmessage : IsRow d.message)
    (file : String) : (ofDiagnostic d source).PointsAt source file d t := by
  obtain ⟨before, rest, hsource, hbefore, hrest, hlexeme⟩ := Token.exists_place ht
  obtain ⟨first, more, hline, hfirst, hmore⟩ := exists_line hsource hrest
  rw [← hbefore, ← hlocation] at hline hfirst
  have hindent : (ofDiagnostic d source).indent.toList
      = first.map fun c => if c = '\t' then '\t' else ' ' := by
    show (Diagnostic.caretIndent _ _).toList = _
    rw [Diagnostic.caretIndent, String.toList_ofList, hline, ← hfirst, List.take_left]
  refine ⟨htoken, hlocation, ?_, ?_, ?_, ⟨_, rfl⟩, length_number d source, ?_, rfl, ?_, ?_, ?_⟩
  · rw [rows_ofDiagnostic, Diagnostic.render]
  · intro hfile
    rw [rows_ofDiagnostic]
    exact Diagnostic.splitOn_render hmessage source hfile
  · intro c hc
    rw [ofDiagnostic, spaces, String.toList_ofList] at hc
    exact List.eq_of_mem_replicate hc
  · rw [hlocation, hbefore]
    simp [Location.behind]
  · rw [← String.length_toList, hindent, List.length_map, hfirst]
  · intro i hi
    rw [← hfirst] at hi
    rw [hindent]
    refine ⟨first[i], ?_, ?_⟩
    · show (Diagnostic.sourceLine _ _).toList[i]? = _
      rw [hline, List.getElem?_append_left hi, List.getElem?_eq_getElem hi]
    · rw [List.getElem?_map, List.getElem?_eq_getElem hi]
      rfl
  · intro hsymbol
    obtain ⟨c, hc, hhead⟩ := hlexeme hsymbol
    refine ⟨c, hc, ?_⟩
    show (Diagnostic.sourceLine _ _).toList[_]? = _
    rw [hline, ← hfirst, List.getElem?_append_right (Nat.le_refl _), Nat.sub_self,
      ← List.head?_eq_getElem?, hmore, hhead]

end Snippet

namespace Session

/--
A source text that is no program is reported by a snippet that points at a token of the text.
-/
theorem parse_render (source file : String) (maxDepth : Nat) {ds : List Diagnostic}
    (h : ((ofSource .standard source).withMaxDepth maxDepth).parse.1 = .error ds) :
    ∃ (d : Diagnostic) (t : Token) (snippet : Snippet),
      ds = [d] ∧ t ∈ Token.scan source ∧ snippet.PointsAt source file d t := by
  obtain ⟨c, hc⟩ := Parse.exists_endsIn maxDepth (exists_eof_completed (Token.scan source))
  obtain ⟨d, rfl, hending⟩ := hc.of_error h
  have hends := hc.ends
  rw [hending] at hends
  obtain ⟨t, ts, hrest, htoken, hlocation, -⟩ := hends.of_halt
  have hscan : ∀ u ∈ c.rest, u ∈ Token.scan source := by
    intro u hu
    rw [← Token.completed_scan source, ← hc.sound.tokens_eq]
    exact List.mem_append_right _ hu
  have ht : t ∈ Token.scan source := hscan t (by simp [hrest])
  have hmessage := hends.isRow_message fun u hu => Token.fitsRow_of_mem_scan (hscan u hu)
  exact ⟨d, t, .ofDiagnostic d source, rfl, ht, Snippet.pointsAt ht htoken hlocation hmessage file⟩

theorem parse_render_tab :
    let t := Lexeme.token ['?'] ⟨2, 2⟩
    let d := Diagnostic.badToken t "invalid input '?': unexpected character '?'"
    ((ofSource .standard "\r\n\t?").withMaxDepth 0).parse.1 = .error [d]
      ∧ ∃ snippet : Snippet, snippet.PointsAt "\r\n\t?" "file" d t := by
  intro t d
  have hscan : Token.scan "\r\n\t?" = [t, .eof ⟨2, 3⟩] := by
    rw [Token.scan, show "\r\n\t?".toList = ['\r', '\n', '\t'] ++ '?' :: [] from rfl]
    rw [Token.scanFrom_lexeme (by simp [Lexeme.isBlank]) rfl]
    show _ :: Token.scanFrom _ [] = _
    rw [Token.scanFrom_blank (by simp)]
    rfl
  have h : ((ofSource .standard "\r\n\t?").withMaxDepth 0).parse.1 = .error [d] := by
    rw [ofSource, hscan]
    rfl
  obtain ⟨d', t', snippet, hd, -, hpoints⟩ := parse_render "\r\n\t?" "file" 0 h
  obtain rfl := List.singleton_inj.mp hd
  obtain rfl : t = t' := Option.some.inj hpoints.token
  exact ⟨h, snippet, hpoints⟩

end Session

end StartEnd
