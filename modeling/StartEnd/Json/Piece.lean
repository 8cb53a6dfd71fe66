import StartEnd.Decimal.Numeral
import StartEnd.Json.Basic

/-!
This module contains the pieces of a JSON text: the punctuation, and the scalar values between it.
-/

namespace StartEnd.Json

inductive Piece where
  | beginArray
  | endArray
  | beginObject
  | endObject
  | comma
  | colon
  | scalar (value : Json)

namespace Piece

def isBlank (c : Char) : Bool := c = ' ' || c = '\t' || c = '\r' || c = '\n'

def punctuation? (c : Char) : Option Piece :=
  if c = '[' then some .beginArray
  else if c = ']' then some .endArray
  else if c = '{' then some .beginObject
  else if c = '}' then some .endObject
  else if c = ',' then some .comma
  else if c = ':' then some .colon
  else none

def isWordChar (c : Char) : Bool := !isBlank c && (punctuation? c).isNone && c ≠ '"'

def isDigits (cs : List Char) : Bool := !cs.isEmpty && cs.all Char.isDigit

def isExponent : List Char → Bool
  | [] => true
  | e :: '+' :: digits => (e = 'e' || e = 'E') && isDigits digits
  | e :: '-' :: digits => (e = 'e' || e = 'E') && isDigits digits
  | e :: digits => (e = 'e' || e = 'E') && isDigits digits

def isFraction : List Char → Bool
  | '.' :: rest =>
    !(rest.takeWhile Char.isDigit).isEmpty && isExponent (rest.dropWhile Char.isDigit)
  | rest => isExponent rest

/--
Whether a text is the whole digits of a number, which has no leading zeros.
-/
def isWhole (cs : List Char) : Bool := isDigits cs && (cs.head? ≠ some '0' || cs.length = 1)

/--
A number without its sign. A negative zero is no integer.
-/
def unsigned? (negative : Bool) (cs : List Char) : Option Json :=
  let whole := cs.takeWhile Char.isDigit
  let rest := cs.dropWhile Char.isDigit
  let written := String.ofList (if negative then '-' :: cs else cs)
  if !isWhole whole || !isFraction rest then none
  else if !rest.isEmpty then some (.decimal written)
  else
    match negative, Decimal.value whole with
    | false, n => some (.integer n)
    | true, 0 => some (.decimal written)
    | true, n => some (.integer (-n))

def word? : List Char → Option Json
  | ['n', 'u', 'l', 'l'] => some .null
  | ['t', 'r', 'u', 'e'] => some (.bool true)
  | ['f', 'a', 'l', 's', 'e'] => some (.bool false)
  | '-' :: cs => unsigned? true cs
  | cs => unsigned? false cs

/--
Splits the text behind an opening quote at the closing one. A backslash takes the next character
with it.
-/
def splitQuote : List Char → Option (List Char × List Char)
  | [] => none
  | c :: rest =>
    if c = '"' then some ([], rest)
    else if c = '\\' then
      match rest with
      | [] => none
      | d :: rest => (splitQuote rest).map fun split => (c :: d :: split.1, split.2)
    else (splitQuote rest).map fun split => (c :: split.1, split.2)

theorem splitQuote_length {cs : List Char} {split : List Char × List Char}
    (h : splitQuote cs = some split) : split.2.length < cs.length := by
  fun_induction splitQuote cs generalizing split with
  | case1 => simp at h
  | case2 => simp [← Option.some.inj h]
  | case3 => simp at h
  | case4 _ _ _ ih =>
    obtain ⟨split', h', rfl⟩ := Option.map_eq_some_iff.1 h
    have := ih h'
    simp only [List.length_cons]
    omega
  | case5 _ _ _ _ ih =>
    obtain ⟨split', h', rfl⟩ := Option.map_eq_some_iff.1 h
    have := ih h'
    simp only [List.length_cons]
    omega

def hexValue? (c : Char) : Option Nat :=
  if '0' ≤ c && c ≤ '9' then some (c.toNat - '0'.toNat)
  else if 'a' ≤ c && c ≤ 'f' then some (c.toNat - 'a'.toNat + 10)
  else if 'A' ≤ c && c ≤ 'F' then some (c.toNat - 'A'.toNat + 10)
  else none

def hexUnit? (a b c d : Char) : Option Nat :=
  match hexValue? a, hexValue? b, hexValue? c, hexValue? d with
  | some a, some b, some c, some d => some (((a * 16 + b) * 16 + c) * 16 + d)
  | _, _, _, _ => none

/--
What a string contains: characters, and halves of characters, which are code units of UTF-16 that
have no partner.
-/
inductive Content where
  | char (c : Char)
  | half (unit : Nat)
deriving DecidableEq

namespace Content

def ofUnit (unit : Nat) : Content :=
  if 0xD800 ≤ unit ∧ unit < 0xE000 then .half unit else .char (Char.ofNat unit)

/--
Puts a code unit in front. The first half of a character is completed by its second half.
-/
def cons (unit : Nat) : List Content → List Content
  | .half low :: rest =>
    if 0xD800 ≤ unit ∧ unit < 0xDC00 ∧ 0xDC00 ≤ low then
      .char (Char.ofNat (0x10000 + (unit - 0xD800) * 0x400 + (low - 0xDC00))) :: rest
    else ofUnit unit :: .half low :: rest
  | rest => ofUnit unit :: rest

def char? : Content → Option Char
  | .char c => some c
  | .half _ => none

end Content

def escape? (c : Char) : Option Char :=
  match c with
  | '"' => some '"'
  | '\\' => some '\\'
  | '/' => some '/'
  | 'b' => some '\x08'
  | 'f' => some '\x0c'
  | 'n' => some '\n'
  | 'r' => some '\r'
  | 't' => some '\t'
  | _ => none

def unescape : List Char → Option (List Content)
  | [] => some []
  | c :: rest =>
    if c = '\\' then
      match rest with
      | [] => none
      | 'u' :: a :: b :: c :: d :: rest =>
        match hexUnit? a b c d with
        | some unit => (unescape rest).map (Content.cons unit)
        | none => none
      | d :: rest =>
        match escape? d with
        | some d => (unescape rest).map (.char d :: ·)
        | none => none
    else if c.toNat < 0x20 then none
    else (unescape rest).map (.char c :: ·)

def string? (body : List Char) : Option Json :=
  (unescape body).map fun content => .string ((content.mapM Content.char?).map String.ofList)

def ofChars (cs : List Char) : Option (List Piece) :=
  match cs with
  | [] => some []
  | c :: rest =>
    if isBlank c then ofChars rest
    else if c = '"' then
      match _h : splitQuote rest with
      | none => none
      | some split =>
        match string? split.1 with
        | none => none
        | some value => (ofChars split.2).map (.scalar value :: ·)
    else
      match punctuation? c with
      | some p => (ofChars rest).map (p :: ·)
      | none =>
        match word? (c :: rest.takeWhile isWordChar) with
        | none => none
        | some value => (ofChars (rest.dropWhile isWordChar)).map (.scalar value :: ·)
termination_by cs.length
decreasing_by
  · simp
  · have := splitQuote_length _h
    simp only [List.length_cons]
    omega
  · simp
  · have := (List.dropWhile_sublist isWordChar (l := rest)).length_le
    simp only [List.length_cons]
    omega

end Piece

end StartEnd.Json
