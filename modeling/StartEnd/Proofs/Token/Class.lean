import Mathlib.Computability.Language
import StartEnd.Proofs.Token.Extent

/-!
This module contains the lexical classes of the language as sets of texts, and the proof that a
lexeme is the longest text of a class at the head of what remains of a source text.
-/

namespace StartEnd.Lexeme

open scoped Computability

namespace Class

/--
The texts of a single character that satisfies a predicate.
-/
def one (p : Char → Prop) : Language Char := {w | ∃ c, p c ∧ w = [c]}

/--
The characters that begin a name or a keyword: `[A-Za-z_]`.
-/
def Letter (c : Char) : Prop := 'A' ≤ c ∧ c ≤ 'Z' ∨ 'a' ≤ c ∧ c ≤ 'z' ∨ c = '_'

def Digit (c : Char) : Prop := '0' ≤ c ∧ c ≤ '9'

/--
The characters that may follow in a name or a keyword: `[A-Za-z0-9_]`.
-/
def LetterOrDigit (c : Char) : Prop := Letter c ∨ Digit c

/--
Names and keywords: `[A-Za-z_][A-Za-z0-9_]*`.
-/
def word : Language Char := one Letter * (one LetterOrDigit)∗

def digits : Language Char := one Digit * (one Digit)∗

/--
Numbers: `[0-9]+` and `[0-9]+.[0-9]+`.
-/
def number : Language Char := digits + digits * one (· = '.') * digits

def operators : List (List Char × Symbol) := [
  ([':', '='], .assign), ([':'], .colon), (['='], .eq), (['<', '>'], .neq), (['<'], .lt),
  (['>'], .gt), (['+'], .plus), (['-'], .minus), (['*'], .times), (['/'], .divide),
  (['('], .lParen), ([')'], .rParen), ([','], .comma), ([';'], .semi)
]

def operator : Language Char := {w | w ∈ operators.map Prod.fst}

/--
A character that stands for itself in a string literal.
-/
def Plain (c : Char) : Prop := c ≠ '"' ∧ c ≠ '\\' ∧ c ≠ '\n'

/--
What may stand between the quotes of a string literal: characters that stand for themselves, and
backslashes each of which takes a character of the same line with it.
-/
def quotedBody : Language Char := (one Plain + one (· = '\\') * one (· ≠ '\n'))∗

/--
String literals.
-/
def quoted : Language Char := one (· = '"') * quotedBody * one (· = '"')

def any : Language Char := word + number + operator + quoted

variable {w : List Char} {c : Char}

theorem mem_kstar_one {p : Char → Prop} : w ∈ (one p)∗ ↔ ∀ c ∈ w, p c := by
  rw [Language.mem_kstar]
  constructor
  · rintro ⟨parts, rfl, hparts⟩ c hc
    obtain ⟨part, hpart, hc⟩ := List.mem_flatten.mp hc
    obtain ⟨d, hd, rfl⟩ := hparts part hpart
    rwa [List.mem_singleton.mp hc]
  · intro h
    refine ⟨w.map ([·]), (List.flatMap_singleton' w).symm, ?_⟩
    intro part hpart
    obtain ⟨c, hc, rfl⟩ := List.mem_map.mp hpart
    exact ⟨c, h c hc, rfl⟩

theorem mem_one_mul_kstar {p q : Char → Prop} :
    w ∈ one p * (one q)∗ ↔ ∃ c cs, w = c :: cs ∧ p c ∧ ∀ d ∈ cs, q d := by
  rw [Language.mem_mul]
  constructor
  · rintro ⟨-, ⟨c, hc, rfl⟩, cs, hcs, rfl⟩
    exact ⟨c, cs, rfl, hc, mem_kstar_one.mp hcs⟩
  · rintro ⟨c, cs, rfl, hc, hcs⟩
    exact ⟨[c], ⟨c, hc, rfl⟩, cs, mem_kstar_one.mpr hcs, rfl⟩

theorem digit_iff : Digit c ↔ c.isDigit := by
  simp [Digit, Char.isDigit, Char.le_def]

theorem upper_iff : 'A' ≤ c ∧ c ≤ 'Z' ↔ c.isUpper := decide_eq_true_iff.symm

theorem lower_iff : 'a' ≤ c ∧ c ≤ 'z' ↔ c.isLower := by
  show _ ↔ (decide _ && decide _) = true
  rw [Bool.and_eq_true, decide_eq_true_iff, decide_eq_true_iff]
  rfl

theorem letter_iff : Letter c ↔ isLetter c := by
  show _ ↔ (c.isUpper || c.isLower || decide (c = '_')) = true
  rw [Bool.or_eq_true, Bool.or_eq_true, decide_eq_true_iff, ← upper_iff, ← lower_iff, or_assoc]
  rfl

theorem letterOrDigit_iff : LetterOrDigit c ↔ isWordChar c := by
  rw [LetterOrDigit, letter_iff, digit_iff]
  simp [isLetter, isWordChar, Char.isAlphanum, or_right_comm]

theorem mem_word : w ∈ word ↔ ∃ c cs, w = c :: cs ∧ isLetter c ∧ ∀ d ∈ cs, isWordChar d := by
  simp only [word, mem_one_mul_kstar, letter_iff, letterOrDigit_iff]

theorem mem_digits : w ∈ digits ↔ ∃ c cs, w = c :: cs ∧ c.isDigit ∧ ∀ d ∈ cs, d.isDigit := by
  simp only [digits, mem_one_mul_kstar, digit_iff]

theorem mem_digits_iff : w ∈ digits ↔ w ≠ [] ∧ ∀ c ∈ w, c.isDigit := by
  rw [mem_digits]
  cases w <;> simp

theorem mem_number :
    w ∈ number ↔ w ∈ digits ∨ ∃ whole ∈ digits, ∃ places ∈ digits, w = whole ++ '.' :: places := by
  unfold number
  rw [Language.mem_add, Language.mem_mul]
  refine or_congr_right ⟨?_, ?_⟩
  · rintro ⟨-, ⟨whole, hwhole, -, ⟨-, rfl, rfl⟩, rfl⟩, places, hplaces, rfl⟩
    exact ⟨whole, hwhole, places, hplaces, by simp⟩
  · rintro ⟨whole, hwhole, places, hplaces, rfl⟩
    exact ⟨whole ++ ['.'], ⟨whole, hwhole, ['.'], ⟨'.', rfl, rfl⟩, rfl⟩, places, hplaces, by simp⟩

theorem mem_operator : w ∈ operator ↔ w ∈ operators.map Prod.fst := Iff.rfl

theorem mem_quoted : w ∈ quoted ↔ ∃ body ∈ quotedBody, w = '"' :: (body ++ ['"']) := by
  unfold quoted
  rw [Language.mem_mul]
  constructor
  · rintro ⟨-, ⟨-, ⟨-, rfl, rfl⟩, body, hbody, rfl⟩, -, ⟨-, rfl, rfl⟩, rfl⟩
    exact ⟨body, hbody, rfl⟩
  · rintro ⟨body, hbody, rfl⟩
    exact ⟨'"' :: body, ⟨['"'], ⟨'"', rfl, rfl⟩, body, hbody, rfl⟩, ['"'], ⟨'"', rfl, rfl⟩, rfl⟩

theorem mem_any : w ∈ any ↔ w ∈ word ∨ w ∈ number ∨ w ∈ operator ∨ w ∈ quoted := by
  unfold any
  rw [Language.mem_add, Language.mem_add, Language.mem_add, or_assoc, or_assoc]

section QuotedBody

theorem nil_mem_quotedBody : [] ∈ quotedBody := Language.nil_mem_kstar _

theorem cons_mem_quotedBody (hc : Plain c) (h : w ∈ quotedBody) : c :: w ∈ quotedBody := by
  obtain ⟨parts, rfl, hparts⟩ := Language.mem_kstar.mp h
  have hpart : [c] ∈ one Plain + one (· = '\\') * one (· ≠ '\n') := .inl ⟨c, hc, rfl⟩
  refine Language.mem_kstar.mpr ⟨[c] :: parts, rfl, ?_⟩
  rintro y (_ | ⟨_, hy⟩)
  · exact hpart
  · apply hparts y hy

theorem escape_mem_quotedBody (hc : c ≠ '\n') (h : w ∈ quotedBody) :
    '\\' :: c :: w ∈ quotedBody := by
  obtain ⟨parts, rfl, hparts⟩ := Language.mem_kstar.mp h
  have hpart : ['\\', c] ∈ one Plain + one (· = '\\') * one (· ≠ '\n') :=
    .inr ⟨['\\'], ⟨'\\', rfl, rfl⟩, [c], ⟨c, hc, rfl⟩, rfl⟩
  refine Language.mem_kstar.mpr ⟨['\\', c] :: parts, rfl, ?_⟩
  rintro y (_ | ⟨_, hy⟩)
  · exact hpart
  · apply hparts y hy

/--
The induction on what stands between the quotes of a string literal.
-/
@[elab_as_elim]
theorem quotedBody_induct {motive : (w : List Char) → w ∈ quotedBody → Prop}
    (nil : motive [] nil_mem_quotedBody)
    (plain : ∀ c body (hc : Plain c) (h : body ∈ quotedBody), motive body h →
      motive (c :: body) (cons_mem_quotedBody hc h))
    (escape : ∀ c body (hc : c ≠ '\n') (h : body ∈ quotedBody), motive body h →
      motive ('\\' :: c :: body) (escape_mem_quotedBody hc h))
    (h : w ∈ quotedBody) : motive w h := by
  obtain ⟨parts, rfl, hparts⟩ := Language.mem_kstar.mp h
  induction parts with
  | nil => exact nil
  | cons part parts ih =>
    have hrest (y : List Char) (hy : y ∈ parts) := hparts y (List.mem_cons_of_mem _ hy)
    have hbody : parts.flatten ∈ quotedBody := Language.mem_kstar.mpr ⟨parts, rfl, hrest⟩
    obtain ⟨c, hc, rfl⟩ | ⟨-, ⟨-, rfl, rfl⟩, -, ⟨c, hc, rfl⟩, rfl⟩ := hparts part (by simp)
    · exact plain c _ hc hbody (ih hrest hbody)
    · exact escape c _ hc hbody (ih hrest hbody)

theorem cons_mem_quotedBody_iff :
    c :: w ∈ quotedBody ↔ Plain c ∧ w ∈ quotedBody
      ∨ c = '\\' ∧ ∃ d v, w = d :: v ∧ d ≠ '\n' ∧ v ∈ quotedBody := by
  constructor
  · generalize hu : c :: w = u
    intro h
    induction h using quotedBody_induct with
    | nil => cases hu
    | plain d body hd hbody =>
      obtain ⟨rfl, rfl⟩ := List.cons.inj hu
      exact .inl ⟨hd, hbody⟩
    | escape d body hd hbody =>
      obtain ⟨rfl, rfl⟩ := List.cons.inj hu
      exact .inr ⟨rfl, d, body, rfl, hd, hbody⟩
  · rintro (⟨hc, h⟩ | ⟨rfl, d, v, rfl, hd, h⟩)
    · exact cons_mem_quotedBody hc h
    · exact escape_mem_quotedBody hd h

/--
Whether the text behind an opening quote has a closing quote on its line.
-/
def Closed (rest : List Char) : Prop := ∃ body ∈ quotedBody, body ++ ['"'] <+: rest

theorem closed_cons {rest : List Char} :
    Closed (c :: rest) ↔ c = '"' ∨ Plain c ∧ Closed rest
      ∨ c = '\\' ∧ ∃ d more, rest = d :: more ∧ d ≠ '\n' ∧ Closed more := by
  constructor
  · rintro ⟨_ | ⟨c', body⟩, hbody, h⟩
    · exact .inl (List.cons_prefix_cons.mp h).1.symm
    · obtain ⟨rfl, hrest⟩ := List.cons_prefix_cons.mp h
      obtain ⟨hc, hbody⟩ | ⟨rfl, d, v, rfl, hd, hv⟩ := cons_mem_quotedBody_iff.mp hbody
      · exact .inr (.inl ⟨hc, body, hbody, hrest⟩)
      · obtain ⟨more, rfl⟩ := hrest
        exact .inr (.inr ⟨rfl, d, _, rfl, hd, v, hv, List.prefix_append ..⟩)
  · rintro (rfl | ⟨hc, body, hbody, h⟩ | ⟨rfl, d, more, rfl, hd, body, hbody, h⟩)
    · exact ⟨[], nil_mem_quotedBody, by simp⟩
    · exact ⟨c :: body, cons_mem_quotedBody hc hbody, by simpa using h⟩
    · exact ⟨'\\' :: d :: body, escape_mem_quotedBody hd hbody, by simpa using h⟩

end QuotedBody

section Heads

theorem isLetter_exclusive (h : isLetter c) : c ≠ '"' ∧ c.isDigit = false := by
  refine ⟨?_, ?_⟩
  · rintro rfl
    cases h
  · rw [Bool.eq_false_iff]
    intro hdigit
    obtain ⟨-, hle⟩ := digit_iff.mpr hdigit
    obtain ⟨hupper, -⟩ | ⟨hlower, -⟩ | rfl := letter_iff.mpr h
    · exact absurd (Char.le_trans hupper hle) (by decide)
    · exact absurd (Char.le_trans hlower hle) (by decide)
    · cases hdigit

theorem isDigit_exclusive (h : c.isDigit) : c ≠ '"' ∧ isLetter c = false := by
  refine ⟨?_, ?_⟩
  · rintro rfl
    cases h
  · rw [Bool.eq_false_iff]
    intro hletter
    rw [(isLetter_exclusive hletter).2] at h
    cases h

theorem operator_exclusive (h : c :: w ∈ operator) :
    c ≠ '"' ∧ c.isDigit = false ∧ isLetter c = false := by
  have key : (operators.all fun op =>
      op.1.head?.all fun c => c ≠ '"' && !c.isDigit && !isLetter c) = true := by
    decide
  obtain ⟨op, hop, hw⟩ := List.mem_map.mp (mem_operator.mp h)
  simpa [hw, and_assoc] using List.all_eq_true.mp key op hop

theorem isDigit_of_mem_number (h : c :: w ∈ number) : c.isDigit := by
  obtain h | ⟨whole, h, places, -, hw⟩ := mem_number.mp h
  · obtain ⟨d, cs, hd, hdigit, -⟩ := mem_digits.mp h
    obtain ⟨rfl, -⟩ := List.cons.inj hd
    exact hdigit
  · obtain ⟨d, cs, rfl, hdigit, -⟩ := mem_digits.mp h
    obtain ⟨rfl, -⟩ := List.cons.inj hw
    exact hdigit

/--
The first character of a text decides which class the text may belong to.
-/
theorem cons_mem_any (h : c :: w ∈ any) :
    isLetter c ∧ c :: w ∈ word ∨ c.isDigit ∧ c :: w ∈ number ∨ c = '"' ∧ c :: w ∈ quoted
      ∨ c :: w ∈ operator ∧ c ≠ '"' ∧ c.isDigit = false ∧ isLetter c = false := by
  obtain h | h | h | h := mem_any.mp h
  · obtain ⟨d, cs, hd, hletter, -⟩ := mem_word.mp h
    obtain ⟨rfl, -⟩ := List.cons.inj hd
    exact .inl ⟨hletter, h⟩
  · exact .inr (.inl ⟨isDigit_of_mem_number h, h⟩)
  · exact .inr (.inr (.inr ⟨h, operator_exclusive h⟩))
  · obtain ⟨body, -, hw⟩ := mem_quoted.mp h
    exact .inr (.inr (.inl ⟨(List.cons.inj hw).1, h⟩))

theorem ne_nil_of_mem_any (h : w ∈ any) : w ≠ [] := by
  rintro rfl
  obtain h | h | h | h := mem_any.mp h
  · simp [mem_word] at h
  · simp [mem_number, mem_digits] at h
  · simp [mem_operator, operators] at h
  · simp [mem_quoted] at h

end Heads

end Class

end StartEnd.Lexeme
