import StartEnd.Proofs.Token.Meaning
import StartEnd.Token.Scan

/-!
This module contains the proof that scanning loses nothing, locates everything and takes the longest
lexemes. A source text is its lexemes with blanks in front of each of them and behind the last one,
and a token is located by the text in front of it.
-/

namespace StartEnd

namespace Location

/--
The place behind a text: each line feed begins a line, and each character behind the last one of
them takes a column.
-/
def behind (cs : List Char) : Location :=
  ⟨1 + cs.count '\n', 1 + (cs.reverse.takeWhile (· ≠ '\n')).length⟩

theorem behind_append_singleton (cs : List Char) (c : Char) :
    behind (cs ++ [c]) = (behind cs).next c := by
  unfold behind next
  by_cases hc : c = '\n'
  · simp [hc, Nat.add_assoc]
  · simp [hc, Nat.add_comm]

theorem start_after (cs : List Char) : start.after cs = behind cs := by
  induction cs using List.reverseRecOn with
  | nil => rfl
  | append_singleton cs c ih =>
    rw [after_append, ih, behind_append_singleton]
    rfl

end Location

/--
A token with the blanks in front of it.
-/
structure Spaced where
  gap : List Char
  token : Token

namespace Spaced

def text (s : Spaced) : List Char := s.gap ++ s.token.lexeme.toList

def textOf (pieces : List Spaced) : List Char := pieces.flatMap text

@[simp]
theorem textOf_nil : textOf [] = [] := rfl

@[simp]
theorem textOf_cons (s : Spaced) (pieces : List Spaced) :
    textOf (s :: pieces) = s.gap ++ (s.token.lexeme.toList ++ textOf pieces) := by
  simp [textOf, text]

theorem textOf_append (before after : List Spaced) :
    textOf (before ++ after) = textOf before ++ textOf after := List.flatMap_append

end Spaced

namespace Token

open Lexeme Spaced

/--
A text that begins at the given place is cut into tokens with the blanks in front of them. A lexeme
begins at the first character that is no blank, and it reaches as far as a lexeme may.
-/
inductive Cut : Location → List Char → List Spaced → Prop where
  | eof {location : Location} {gap : List Char} (blank : ∀ c ∈ gap, isBlank c) :
    Cut location gap [⟨gap, .eof (location.after gap)⟩]
  | lexeme {location : Location} {gap : List Char} {c : Char} {rest : List Char}
    {pieces : List Spaced} (blank : ∀ c ∈ gap, isBlank c) (hc : isBlank c = false)
    (h : let lexeme := c :: rest.take (extent c rest)
      Cut ((location.after gap).after lexeme) (rest.drop (extent c rest)) pieces) :
    Cut location (gap ++ c :: rest)
      (⟨gap, Lexeme.token (c :: rest.take (extent c rest)) (location.after gap)⟩ :: pieces)

theorem exists_cut (location : Location) (cs : List Char) :
    ∃ pieces, Cut location cs pieces ∧ pieces.map Spaced.token = scanFrom location cs := by
  have hblank (cs : List Char) : ∀ c ∈ cs.takeWhile isBlank, isBlank c :=
    fun c => List.mem_takeWhile_imp
  fun_induction scanFrom location cs with
  | case1 location cs here hdrop =>
    have hgap : cs.takeWhile isBlank = cs := by
      have := List.takeWhile_append_dropWhile (p := isBlank) (l := cs)
      rwa [hdrop, List.append_nil] at this
    refine ⟨[⟨cs, .eof (location.after cs)⟩], .eof (hgap ▸ hblank cs), ?_⟩
    show [Token.eof _] = [Token.eof (location.after (cs.takeWhile isBlank))]
    rw [hgap]
  | case2 location cs here c rest hcons lexeme ih =>
    obtain ⟨pieces, hcut, hpieces⟩ := ih
    have hc : isBlank c = false := by
      simpa [hcons] using List.head?_dropWhile_not isBlank cs
    refine ⟨⟨cs.takeWhile isBlank, Lexeme.token lexeme here⟩ :: pieces, ?_, by rw [← hpieces]; rfl⟩
    have := Cut.lexeme (hblank cs) hc hcut
    rwa [← hcons, List.takeWhile_append_dropWhile] at this

namespace Cut

variable {location : Location} {cs : List Char} {pieces : List Spaced}

theorem textOf_eq (h : Cut location cs pieces) : textOf pieces = cs := by
  induction h with
  | eof => simp [Token.eof]
  | lexeme _ _ _ ih =>
    simp [ih, Lexeme.token]

theorem blank_of_mem (h : Cut location cs pieces) : ∀ s ∈ pieces, ∀ c ∈ s.gap, isBlank c := by
  induction h with
  | eof blank => simpa using blank
  | lexeme blank _ _ ih => simpa using ⟨blank, ih⟩

/--
A cut of a text goes on behind some of its pieces as a cut of the rest of the text.
-/
theorem of_append {before after : List Spaced} (h : Cut location cs (before ++ after))
    (hne : after ≠ []) : Cut (location.after (textOf before)) (textOf after) after := by
  induction before generalizing location cs with
  | nil =>
    rw [List.nil_append] at h
    rwa [textOf_nil, Location.after_nil, h.textOf_eq]
  | cons s before ih =>
    generalize hpieces : s :: before ++ after = pieces at h
    cases h with
    | eof =>
      obtain ⟨-, hnil⟩ := List.cons.inj hpieces
      exact absurd (List.append_eq_nil_iff.mp hnil).2 hne
    | lexeme _ _ h =>
      obtain ⟨rfl, rfl⟩ := List.cons.inj hpieces
      have := ih h
      rw [← Location.after_append, ← Location.after_append] at this
      simpa [Lexeme.token] using this

theorem head_location {s : Spaced} (h : Cut location cs (s :: pieces)) :
    s.token.location = location.after s.gap := by
  cases h <;> rfl

/--
A piece of a cut that does not end the input is the lexeme at the head of what remains behind the
blanks.
-/
theorem heads {s : Spaced} (h : Cut location cs (s :: pieces)) (hs : s.token.symbol ≠ .eof) :
    let lexeme := s.token.lexeme.toList
    let remaining := lexeme ++ textOf pieces
    (∀ c ∈ remaining.head?, isBlank c = false) ∧ Heads remaining lexeme
      ∧ classify lexeme = (s.token.symbol, s.token.value) := by
  cases h with
  | eof => exact absurd rfl hs
  | @lexeme _ gap c rest _ _ hc h =>
    simp only [Lexeme.token, String.toList_ofList, h.textOf_eq, List.cons_append,
      List.take_append_drop]
    exact ⟨by simpa using hc, heads_extent c rest, trivial⟩

theorem exists_last (h : Cut location cs pieces) :
    ∃ words gap, pieces = words ++ [⟨gap, .eof (location.after cs)⟩]
      ∧ ∀ s ∈ words, s.token.symbol ≠ .eof ∧ s.token.lexeme ≠ "" := by
  induction h with
  | eof => exact ⟨[], _, rfl, by simp⟩
  | @lexeme location gap c rest pieces _ _ _ ih =>
    obtain ⟨words, last, rfl, hwords⟩ := ih
    have hrest : ((location.after gap).after (c :: rest.take (extent c rest))).after
        (rest.drop (extent c rest)) = location.after (gap ++ c :: rest) := by
      rw [← Location.after_append, ← Location.after_append, List.cons_append, List.take_append_drop]
    refine ⟨_ :: words, last, by rw [hrest]; rfl, ?_⟩
    intro s hs
    obtain rfl | hs := List.mem_cons.mp hs
    · obtain ⟨symbol, value, hmeans⟩ := (heads_extent c rest).exists_means
      refine ⟨?_, by simp [Lexeme.token, ← String.toList_inj]⟩
      show (classify _).1 ≠ .eof
      rw [hmeans.classify_eq]
      exact hmeans.ne_eof
    · apply hwords s hs

end Cut

/--
A source text is cut into its tokens and the blanks in front of them without a loss. Only the last
token ends the input, and it has no lexeme, whereas all others have one. Each token is located by
the number of line feeds in front of it, and by the number of characters since the last of them.
-/
theorem scan_lossless (source : String) :
    ∃ (words : List Spaced) (last : Spaced), (words ++ [last]).map Spaced.token = scan source
      ∧ last.token.symbol = .eof ∧ (∀ w ∈ words, w.token.symbol ≠ .eof)
      ∧ textOf words ++ last.gap = source.toList
      ∧ (∀ w ∈ words ++ [last], ∀ c ∈ w.gap, c ∈ [' ', '\t', '\r', '\n'])
      ∧ last.token.lexeme = "" ∧ (∀ w ∈ words, w.token.lexeme ≠ "")
      ∧ ∀ before w after, words ++ [last] = before ++ w :: after →
        w.token.location = .behind (textOf before ++ w.gap) := by
  obtain ⟨pieces, hcut, hpieces⟩ := exists_cut .start source.toList
  obtain ⟨words, gap, rfl, hwords⟩ := hcut.exists_last
  refine ⟨words, ⟨gap, .eof _⟩, hpieces, rfl, fun w hw => (hwords w hw).1, ?_, ?_, rfl,
    fun w hw => (hwords w hw).2, ?_⟩
  · rw [← hcut.textOf_eq, textOf_append]
    simp [Token.eof]
  · intro w hw c hc
    exact mem_blanks.mpr (hcut.blank_of_mem w hw c hc)
  · intro before w after h
    rw [h] at hcut
    rw [(hcut.of_append (by simp)).head_location, ← Location.after_append, Location.start_after]

/--
Scanning takes the longest lexeme. A source text is nothing but tokens and blanks in front of them,
and only the last token ends the input. In front of it, each token is the lexeme at the head of what
remains of the source text behind the blanks, and its symbol and payload are what the lexeme means.
-/
theorem scan_longest (source : String) :
    ∃ (words : List Spaced) (last : Spaced), (words ++ [last]).map Spaced.token = scan source
      ∧ textOf (words ++ [last]) = source.toList
      ∧ (∀ s ∈ words ++ [last], ∀ c ∈ s.gap, c ∈ [' ', '\t', '\r', '\n'])
      ∧ last.token.symbol = .eof ∧ last.token.lexeme = ""
      ∧ ∀ before s after, words = before ++ s :: after →
        let lexeme := s.token.lexeme.toList
        let remaining := lexeme ++ textOf (after ++ [last])
        s.token.symbol ≠ .eof ∧ (∀ c ∈ remaining.head?, c ∉ [' ', '\t', '\r', '\n'])
          ∧ Heads remaining lexeme
          ∧ ∀ symbol value, Means lexeme symbol value ↔
            symbol = s.token.symbol ∧ value = s.token.value := by
  obtain ⟨pieces, hcut, hpieces⟩ := exists_cut .start source.toList
  obtain ⟨words, gap, rfl, hwords⟩ := hcut.exists_last
  refine ⟨words, ⟨gap, .eof _⟩, hpieces, hcut.textOf_eq, ?_, rfl, rfl, ?_⟩
  · intro s hs c hc
    exact mem_blanks.mpr (hcut.blank_of_mem s hs c hc)
  · rintro before s after rfl
    have hs : s.token.symbol ≠ .eof := (hwords s (by simp)).1
    rw [List.append_assoc, List.cons_append] at hcut
    obtain ⟨hhead, hheads, hclassify⟩ := (hcut.of_append (by simp)).heads hs
    refine ⟨hs, ?_, hheads, ?_⟩
    · intro c hc
      rw [mem_blanks, hhead c hc]
      exact Bool.false_ne_true
    · intro symbol value
      rw [hheads.means_iff, hclassify, Prod.mk.injEq, eq_comm, @eq_comm _ value]

end Token

end StartEnd
