import Mathlib.Data.List.TakeWhile
import StartEnd.Json.Reader

/-!
This module contains the proof that what is written for strings and integers is read back as one
piece, in front of any text that keeps apart from it.
-/

namespace StartEnd.Json

theorem mapM_map_of_forall {f : β → Option α} {g : α → β} (h : ∀ x, f (g x) = some x)
    (xs : List α) : (xs.map g).mapM f = some xs := by
  have hpure : f ∘ g = fun x => pure (id x) := funext h
  rw [List.mapM_map, hpure, List.mapM_pure, List.map_id]
  rfl

namespace Piece

section String

theorem hexValue?_hexDigit {n : Nat} (h : n < 16) : hexValue? (hexDigit n) = some n := by
  have key : ∀ n < 16, hexValue? (hexDigit n) = some n := by decide
  exact key n h

theorem hexUnit?_control {n : Nat} (h : n < 0x20) :
    hexUnit? '0' '0' (hexDigit (n / 16)) (hexDigit (n % 16)) = some n := by
  have hzero : hexValue? '0' = some 0 := rfl
  have hhigh := hexValue?_hexDigit (n := n / 16) (by omega)
  have hlow := hexValue?_hexDigit (n := n % 16) (by omega)
  simp only [hexUnit?, hzero, hhigh, hlow, Option.some.injEq]
  omega

theorem hexDigit_plain (n : Nat) : hexDigit n ≠ '"' ∧ hexDigit n ≠ '\\' :=
  ⟨Nat.digitChar_ne _ rfl, Nat.digitChar_ne _ rfl⟩

theorem Content.cons_of_lt {unit : Nat} (h : unit < 0xD800) (rest : List Content) :
    Content.cons unit rest = .char (Char.ofNat unit) :: rest := by
  have hunit : Content.ofUnit unit = .char (Char.ofNat unit) := if_neg (by omega)
  unfold Content.cons
  split
  · rw [if_neg (by omega), hunit]
  · rw [hunit]

/--
The escapes of a character: none, one that takes a letter, or the number of a control character.
-/
inductive Escapes (c : Char) : List Char → Prop where
  | plain (hquote : c ≠ '"') (hescape : c ≠ '\\') (h : ¬ c.toNat < 0x20) : Escapes c [c]
  | letter {d : Char} (hd : d ≠ 'u') (h : escape? d = some c) : Escapes c ['\\', d]
  | number (h : c.toNat < 0x20) :
    Escapes c ['\\', 'u', '0', '0', hexDigit (c.toNat / 16), hexDigit (c.toNat % 16)]

theorem escapes_escape (c : Char) : Escapes c (escape c) := by
  unfold escape
  split
  · next h => exact .letter (by decide) (by rw [h]; rfl)
  split
  · next h => exact .letter (by decide) (by rw [h]; rfl)
  split
  · next h => exact .letter (by decide) (by rw [h]; rfl)
  split
  · next h => exact .letter (by decide) (by rw [h]; rfl)
  split
  · next h => exact .letter (by decide) (by rw [h]; rfl)
  split
  · next h => exact .letter (by decide) (by rw [h]; rfl)
  split
  · next h => exact .letter (by decide) (by rw [h]; rfl)
  split
  · next h => exact .number h
  · next hquote hescape _ _ _ _ _ h => exact .plain hquote hescape h

theorem splitQuote_plain {c : Char} (hquote : c ≠ '"') (hescape : c ≠ '\\') (rest : List Char) :
    splitQuote (c :: rest) = (splitQuote rest).map fun split => (c :: split.1, split.2) := by
  rw [splitQuote.eq_def]
  simp [hquote, hescape]

theorem splitQuote_escaped (d : Char) (rest : List Char) :
    splitQuote ('\\' :: d :: rest)
      = (splitQuote rest).map fun split => ('\\' :: d :: split.1, split.2) := by
  rw [splitQuote.eq_def]
  simp

namespace Escapes

variable {c : Char} {w : List Char} (h : Escapes c w) (rest : List Char)

include h

theorem splitQuote_append :
    splitQuote (w ++ rest) = (splitQuote rest).map fun split => (w ++ split.1, split.2) := by
  cases h with
  | plain hquote hescape hc => exact splitQuote_plain hquote hescape rest
  | @letter d hd hc => exact splitQuote_escaped d rest
  | number hc =>
    have hhigh := hexDigit_plain (c.toNat / 16)
    have hlow := hexDigit_plain (c.toNat % 16)
    have hzero := splitQuote_plain (c := '0') (by decide) (by decide)
    simp only [List.cons_append, List.nil_append, splitQuote_escaped, hzero,
      splitQuote_plain hhigh.1 hhigh.2, splitQuote_plain hlow.1 hlow.2, Option.map_map]
    rfl

theorem unescape_append : unescape (w ++ rest) = (unescape rest).map (.char c :: ·) := by
  cases h with
  | plain hquote hescape hc =>
    rw [List.singleton_append, unescape.eq_def]
    simp [hescape, hc]
  | @letter d hd hc =>
    have hcons : ['\\', d] ++ rest = '\\' :: d :: rest := rfl
    rw [hcons, unescape.eq_def]
    simp only [↓reduceIte]
    split
    · contradiction
    · next heq => exact absurd (List.cons.inj heq).1 hd
    · next heq =>
      obtain ⟨rfl, rfl⟩ := List.cons.inj heq
      simp [hc]
  | number hc =>
    have hunit := hexUnit?_control hc
    have hchar : Content.cons c.toNat = (.char c :: ·) := by
      funext content
      rw [Content.cons_of_lt (by omega), Char.ofNat_toNat]
    simp [unescape, hunit, hchar]

end Escapes

theorem splitQuote_escape (cs rest : List Char) :
    splitQuote (cs.flatMap escape ++ '"' :: rest) = some (cs.flatMap escape, rest) := by
  induction cs with
  | nil =>
    rw [List.flatMap_nil, List.nil_append, splitQuote.eq_def]
    simp
  | cons c cs ih =>
    rw [List.flatMap_cons, List.append_assoc, (escapes_escape c).splitQuote_append, ih]
    rfl

theorem unescape_escape (cs : List Char) : unescape (cs.flatMap escape) = some (cs.map .char) := by
  induction cs with
  | nil => rfl
  | cons c cs ih =>
    rw [List.flatMap_cons, (escapes_escape c).unescape_append, ih]
    rfl

theorem string?_escape (s : String) : string? (s.toList.flatMap escape) = some (.ofString s) := by
  have hchars := mapM_map_of_forall (f := Content.char?) (g := Content.char) (fun _ => rfl) s.toList
  simp [string?, unescape_escape, hchars, Json.ofString]

theorem ofChars_quote {body rest tail : List Char} {value : Json}
    (hsplit : splitQuote rest = some (body, tail)) (hvalue : string? body = some value) :
    ofChars ('"' :: rest) = (ofChars tail).map (.scalar value :: ·) := by
  have hblank : isBlank '"' = false := rfl
  rw [ofChars]
  simp only [hblank, Bool.false_eq_true, ↓reduceIte]
  split
  · next h => simp [hsplit] at h
  · next split h =>
    obtain rfl : (body, tail) = split := Option.some.inj (hsplit ▸ h)
    simp only [hvalue]

theorem ofChars_quoted (s : String) (rest : List Char) :
    ofChars ((quoted (some s)).toList ++ rest)
      = (ofChars rest).map (.scalar (.ofString s) :: ·) := by
  have htext : (quoted (some s)).toList ++ rest
      = '"' :: (s.toList.flatMap escape ++ '"' :: rest) := by
    simp [quoted]
  rw [htext, ofChars_quote (splitQuote_escape s.toList rest) (string?_escape s)]

end String

section Integer

theorem forall_isDigit (n : Nat) : ∀ c ∈ Nat.toDigits 10 n, c.isDigit = true :=
  fun _ hc => Nat.isDigit_of_mem_toDigits (by decide) (by decide) hc

theorem head?_toDigits {n : Nat} (h : n ≠ 0) : (Nat.toDigits 10 n).head? ≠ some '0' := by
  induction n using Nat.strongRecOn with
  | ind n ih =>
    rw [Nat.toDigits_eq_if (by decide)]
    split
    · next hlt =>
      have hzero : n.digitChar ≠ '0' := by
        have key : ∀ n < 10, n ≠ 0 → n.digitChar ≠ '0' := by decide
        exact key n hlt h
      simpa using hzero
    · next hlt =>
      have hne := Nat.toDigits_ne_nil (n := n / 10) (b := 10)
      rw [List.head?_append, List.head?_eq_some_head hne, Option.some_or, ← List.head?_eq_some_head]
      exact ih (n / 10) (by omega) (by omega)

theorem isWhole_toDigits (n : Nat) : isWhole (Nat.toDigits 10 n) = true := by
  have hlead : (Nat.toDigits 10 n).head? ≠ some '0' ∨ (Nat.toDigits 10 n).length = 1 := by
    by_cases h : n = 0
    · exact .inr (h ▸ rfl)
    · exact .inl (head?_toDigits h)
  simpa [isWhole, isDigits] using ⟨forall_isDigit n, hlead⟩

theorem unsigned?_toDigits (negative : Bool) (n : Nat) (h : negative = true → n ≠ 0) :
    unsigned? negative (Nat.toDigits 10 n) = some (.integer (if negative then -n else n)) := by
  have htake : (Nat.toDigits 10 n).takeWhile Char.isDigit = Nat.toDigits 10 n :=
    List.takeWhile_eq_self_iff.2 (forall_isDigit n)
  have hdrop : (Nat.toDigits 10 n).dropWhile Char.isDigit = [] :=
    List.dropWhile_eq_nil_iff.2 (forall_isDigit n)
  have hvalue : Decimal.value (Nat.toDigits 10 n) = n := Nat.ofDigitChars_ten_toDigits
  have hfraction : isFraction [] = true := rfl
  simp only [unsigned?, htake, hdrop, isWhole_toDigits, hfraction, hvalue]
  cases negative with
  | false => rfl
  | true =>
    have := h rfl
    cases n with
    | zero => contradiction
    | succ n => rfl

theorem word?_toDigits (n : Nat) : word? (Nat.toDigits 10 n) = some (.integer n) := by
  have hdigits := forall_isDigit n
  have hunsigned : word? (Nat.toDigits 10 n) = unsigned? false (Nat.toDigits 10 n) := by
    unfold word?
    split
    -- The first characters of the words and the sign are no digits.
    case h_5 => rfl
    all_goals next h => simp [h] at hdigits
  rw [hunsigned, unsigned?_toDigits false n (by simp)]
  rfl

theorem toList_integer (n : Int) :
    (toString n).toList
      = if 0 ≤ n then Nat.toDigits 10 n.toNat else '-' :: Nat.toDigits 10 (-n).toNat := by
  rw [Int.toString_eq_repr, Int.repr_eq_if]
  split
  · rw [Nat.toList_repr]
  · rw [String.toList_append, Nat.toList_repr]
    rfl

theorem word?_integer (n : Int) : word? (toString n).toList = some (.integer n) := by
  rw [toList_integer]
  split
  · next h => rw [word?_toDigits, Int.toNat_of_nonneg h]
  · next h =>
    have hsign : word? ('-' :: Nat.toDigits 10 (-n).toNat)
        = unsigned? true (Nat.toDigits 10 (-n).toNat) := rfl
    rw [hsign, unsigned?_toDigits true _ (by omega)]
    simp only [↓reduceIte, Option.some.injEq, Json.integer.injEq]
    omega

theorem isWordChar_of_isDigit {c : Char} (h : c.isDigit = true) : isWordChar c = true := by
  have hother {d : Char} (hd : d.isDigit = false) : c ≠ d := by
    rintro rfl
    simp [h] at hd
  simp [isWordChar, isBlank, punctuation?, hother (d := ' ') rfl, hother (d := '\t') rfl,
    hother (d := '\r') rfl, hother (d := '\n') rfl, hother (d := '[') rfl, hother (d := ']') rfl,
    hother (d := '{') rfl, hother (d := '}') rfl, hother (d := ',') rfl, hother (d := ':') rfl,
    hother (d := '"') rfl]

theorem isWordChar_integer (n : Int) : ∀ c ∈ (toString n).toList, isWordChar c = true := by
  have hdigits (n : Nat) : ∀ c ∈ Nat.toDigits 10 n, isWordChar c = true :=
    fun c hc => isWordChar_of_isDigit (forall_isDigit n c hc)
  intro c hc
  rw [toList_integer] at hc
  split at hc
  · exact hdigits _ c hc
  · obtain rfl | hc := List.mem_cons.1 hc
    · rfl
    · exact hdigits _ c hc

end Integer

section Pieces

variable {tail : List Char}

/--
Whether a word ends in front of a text.
-/
def Apart (rest : List Char) : Prop := ∀ c ∈ rest.head?, isWordChar c = false

theorem Apart.of_punctuation {c : Char} (h : (punctuation? c).isSome = true) :
    Apart (c :: tail) := by
  intro d hd
  cases hd
  simp [isWordChar, Option.isSome_iff_ne_none.1 h]

theorem Apart.blanks_append {blanks : List Char} (h : Apart tail)
    (hblanks : ∀ c ∈ blanks, isBlank c = true) : Apart (blanks ++ tail) := by
  cases blanks with
  | nil => exact h
  | cons c blanks =>
    intro d hd
    cases hd
    simp [isWordChar, hblanks c List.mem_cons_self]

theorem Apart.takeWhile_eq_nil (h : Apart tail) : tail.takeWhile isWordChar = [] := by
  cases tail with
  | nil => rfl
  | cons c tail => simp [h c rfl]

theorem Apart.dropWhile_eq_self (h : Apart tail) : tail.dropWhile isWordChar = tail := by
  cases tail with
  | nil => rfl
  | cons c tail => simp [h c rfl]

theorem ofChars_blanks {blanks : List Char} (h : ∀ c ∈ blanks, isBlank c = true) :
    ofChars (blanks ++ tail) = ofChars tail := by
  induction blanks with
  | nil => rfl
  | cons c blanks ih =>
    rw [List.cons_append, ofChars, if_pos (h c List.mem_cons_self)]
    exact ih fun d hd => h d (List.mem_cons_of_mem c hd)

theorem punctuation?_of_isBlank {c : Char} (h : isBlank c = true) : punctuation? c = none := by
  simp only [isBlank, Bool.or_eq_true, decide_eq_true_eq] at h
  obtain ((rfl | rfl) | rfl) | rfl := h
  all_goals rfl

theorem ofChars_punctuation {c : Char} {p : Piece} (h : punctuation? c = some p) :
    ofChars (c :: tail) = (ofChars tail).map (p :: ·) := by
  have hblank : isBlank c = false :=
    Bool.eq_false_iff.2 fun hc => by simp [punctuation?_of_isBlank hc] at h
  have hquote : c ≠ '"' := by
    rintro rfl
    cases h
  rw [ofChars]
  simp [hblank, hquote, h]

theorem ofChars_word {w : List Char} {value : Json} (hw : ∀ c ∈ w, isWordChar c = true)
    (hvalue : word? w = some value) (hapart : Apart tail) :
    ofChars (w ++ tail) = (ofChars tail).map (.scalar value :: ·) := by
  cases w with
  | nil => cases hvalue
  | cons c w =>
    obtain ⟨⟨hblank, hpunctuation⟩, hquote⟩ :
        (isBlank c = false ∧ punctuation? c = none) ∧ c ≠ '"' := by
      simpa [isWordChar] using hw c List.mem_cons_self
    have hw : ∀ d ∈ w, isWordChar d = true := fun d hd => hw d (List.mem_cons_of_mem c hd)
    rw [List.cons_append, ofChars]
    simp [hblank, hquote, hpunctuation, List.takeWhile_append_of_pos hw,
      List.dropWhile_append_of_pos hw, hapart.takeWhile_eq_nil, hapart.dropWhile_eq_self, hvalue]

end Pieces

end Piece

end StartEnd.Json
