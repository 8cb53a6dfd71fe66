import StartEnd.Proofs.Layout
import StartEnd.Proofs.Token.Cut

/-!
This module contains the proof that string literals say what was written: a text that is spelled
between quotes is the content of the token that is scanned, and what follows the closing quote is
scanned as if it stood alone, further to the right.
-/

namespace StartEnd

namespace Lexeme

open StartEnd.Lexeme.Class

/--
The ways to write a character between the quotes of a string literal. Quotes, backslashes and line
feeds need an escape, and a tab may have one.
-/
def spellings : Char → List (List Char)
  | '"' => [['\\', '"']]
  | '\\' => [['\\', '\\']]
  | '\n' => [['\\', 'n']]
  | '\t' => [['\t'], ['\\', 't']]
  | c => [[c]]

/--
The ways to write a text between the quotes of a string literal, character by character.
-/
inductive Spells : List Char → List Char → Prop where
  | nil : Spells [] []
  | cons {c : Char} {part content body : List Char} (h : part ∈ spellings c)
      (rest : Spells content body) : Spells (c :: content) (part ++ body)

theorem eq_of_mem_spellings {c : Char} {part : List Char} (h : part ∈ spellings c) :
    part = [c] ∧ Plain c ∨ ∃ e, part = ['\\', e] ∧ (e, c) ∈ escapes := by
  unfold spellings at h
  split at h <;> simp_all [escapes, Plain]

theorem Spells.decodes {content body : List Char} (h : Spells content body) :
    Decodes body content := by
  induction h with
  | nil => exact .nil
  | cons hpart _ ih =>
    obtain ⟨rfl, hc⟩ | ⟨e, rfl, he⟩ := eq_of_mem_spellings hpart
    · exact .plain hc ih
    · exact .escape he ih

theorem Decodes.mem_quotedBody {body content : List Char} (h : Decodes body content) :
    body ∈ quotedBody := by
  have hescapes : ∀ e ∈ escapes, e.1 ≠ '\n' := by decide
  induction h with
  | nil => exact nil_mem_quotedBody
  | plain hc _ ih => exact cons_mem_quotedBody hc ih
  | escape he _ ih => exact escape_mem_quotedBody (hescapes _ he) ih

theorem Decodes.token_eq {body content : List Char} (h : Decodes body content)
    (location : Location) :
    token ('"' :: (body ++ ['"'])) location
      =
    ⟨.stringLiteral, some (.text (String.ofList content)), String.ofList ('"' :: (body ++ ['"'])),
      location⟩ := by
  rw [token, (Means.string h).classify_eq]

end Lexeme

namespace Location

/--
The place of a text that is preceded by some characters on its first line.
-/
def behindLine (n : Nat) (l : Location) : Location :=
  if l.line = 1 then { l with column := l.column + n } else l

theorem line_le_line_next (l : Location) (c : Char) : l.line ≤ (l.next c).line := by
  unfold next
  split
  · apply Nat.le_succ
  · apply Nat.le_refl

theorem line_le_line_after (l : Location) (cs : List Char) : l.line ≤ (l.after cs).line := by
  induction cs generalizing l with
  | nil => apply Nat.le_refl
  | cons c cs ih => exact (l.line_le_line_next c).trans (ih _)

variable (n : Nat)

theorem next_behindLine {l : Location} (h : 1 ≤ l.line) (c : Char) :
    (l.behindLine n).next c = (l.next c).behindLine n := by
  by_cases hl : l.line = 1 <;> by_cases hc : c = '\n' <;> simp [next, behindLine, hl, hc]
  · omega
  · omega

theorem after_behindLine {l : Location} (h : 1 ≤ l.line) (cs : List Char) :
    (l.behindLine n).after cs = (l.after cs).behindLine n := by
  induction cs generalizing l with
  | nil => rfl
  | cons c cs ih =>
    rw [after_cons, after_cons, next_behindLine n h, ih (h.trans (l.line_le_line_next c))]

theorem after_of_newline_not_mem {cs : List Char} (h : '\n' ∉ cs) :
    start.after cs = start.behindLine cs.length := by
  have htake : cs.reverse.takeWhile (· ≠ '\n') = cs.reverse := by
    rw [List.takeWhile_eq_self_iff]
    intro c hc
    simpa using ne_of_mem_of_not_mem (List.mem_reverse.mp hc) h
  rw [start_after, behind, htake, List.count_eq_zero.mpr h, List.length_reverse]
  rfl

end Location

namespace Token

open Lexeme

/--
A token of a text that is preceded by some characters on its first line.
-/
def behindLine (n : Nat) (t : Token) : Token := { t with location := t.location.behindLine n }

theorem scanFrom_behindLine (n : Nat) {location : Location} (h : 1 ≤ location.line)
    (cs : List Char) :
    scanFrom (location.behindLine n) cs = (scanFrom location cs).map (behindLine n) := by
  fun_induction scanFrom location cs with
  | case1 location cs here hdrop =>
    have hblank : ∀ c ∈ cs, isBlank c := List.dropWhile_eq_nil_iff.mp hdrop
    have hhere : here = location.after cs := by
      show location.after (cs.takeWhile isBlank) = _
      rw [List.takeWhile_eq_self_iff.mpr hblank]
    rw [scanFrom_blank hblank, Location.after_behindLine n h, hhere]
    rfl
  | case2 location cs here c rest hcons lexeme ih =>
    have hc : isBlank c = false := by
      simpa [hcons] using List.head?_dropWhile_not isBlank cs
    have hhere : 1 ≤ here.line := h.trans (location.line_le_line_after _)
    have hnext : 1 ≤ (here.after lexeme).line := hhere.trans (here.line_le_line_after lexeme)
    nth_rewrite 1 [← List.takeWhile_append_dropWhile (p := isBlank) (l := cs)]
    rw [hcons, scanFrom_lexeme (fun c => List.mem_takeWhile_imp) hc, Location.after_behindLine n h,
      Location.after_behindLine n hhere, ih hnext]
    rfl

/--
A text that is spelled between quotes is scanned as a string literal with the text as its content,
whatever follows; and what follows is scanned as if it stood alone, only that the places on its
first line are moved behind the literal.
-/
theorem scan_spelled (content : String) {body : List Char} (h : Spells content.toList body)
    (suffix : String) :
    let literal := String.ofList ('"' :: (body ++ ['"']))
    scan (literal ++ suffix)
      =
    ⟨.stringLiteral, some (.text content), literal, .start⟩
      :: (scan suffix).map (behindLine literal.length) := by
  intro literal
  have hdecodes := h.decodes
  have hextent : extent '"' (body ++ ['"'] ++ suffix.toList) = (body ++ ['"']).length := by
    rw [extent, if_pos rfl, List.append_assoc, List.length_append]
    exact quotedExtent_of_mem hdecodes.mem_quotedBody suffix.toList
  have hline : '\n' ∉ '"' :: (body ++ ['"']) := by
    simp [hdecodes.newline_not_mem]
  have htext : (literal ++ suffix).toList = '"' :: (body ++ ['"'] ++ suffix.toList) := by
    simp [literal]
  have hlength : ('"' :: (body ++ ['"'])).length = literal.length := String.length_ofList.symm
  rw [scan, htext, scanFrom_cons rfl, hextent, List.take_left, List.drop_left, hdecodes.token_eq,
    Location.after_of_newline_not_mem hline, hlength, scanFrom_behindLine _ (by decide),
    String.ofList_toList]
  rfl

theorem scan_spelled_tabs :
    let body := "\t\\t\\\"\\\\\\n".toList
    let literal := String.ofList ('"' :: (body ++ ['"']))
    Spells "\t\t\"\\\n".toList body
      ∧ scan (literal ++ "\"x\n;")
        =
      ⟨.stringLiteral, some (.text "\t\t\"\\\n"), literal, .start⟩
        :: (scan "\"x\n;").map (behindLine literal.length) := by
  intro body literal
  have h : Spells "\t\t\"\\\n".toList body :=
    .cons (show ['\t'] ∈ spellings '\t' by decide)
      (.cons (show ['\\', 't'] ∈ spellings '\t' by decide)
      (.cons (show ['\\', '"'] ∈ spellings '"' by decide)
      (.cons (show ['\\', '\\'] ∈ spellings '\\' by decide)
      (.cons (show ['\\', 'n'] ∈ spellings '\n' by decide) .nil))))
  exact ⟨h, scan_spelled _ h _⟩

end Token

end StartEnd
