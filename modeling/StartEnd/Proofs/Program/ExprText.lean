import StartEnd.Proofs.Program.Functional
import StartEnd.Proofs.Text.Joined

/-!
This module contains the proof that an expression in functional notation can be read back from its
text, whatever stands behind the text.
-/

namespace StartEnd

open StartEnd.Lexeme StartEnd.Text

section Words

theorem isWordChar_of_isLetter {c : Char} (h : isLetter c) : isWordChar c := by
  unfold isLetter at h
  unfold isWordChar Char.isAlphanum
  simp_all [or_assoc]
  tauto

theorem isWordChar_of_isDigit {c : Char} (h : c.isDigit) : isWordChar c := by
  simp [isWordChar, Char.isAlphanum, h]

theorem IsName.exists_cons {name : String} (h : IsName name) :
    ∃ c cs, name.toList = c :: cs ∧ isLetter c ∧ ∀ d ∈ cs, isWordChar d :=
  Class.mem_word.mp h.1

theorem IsName.isWordChar {name : String} (h : IsName name) :
    ∀ c ∈ name.toList, isWordChar c := by
  obtain ⟨c, cs, hname, hc, hcs⟩ := h.exists_cons
  rw [hname, List.forall_mem_cons]
  exact ⟨isWordChar_of_isLetter hc, hcs⟩

theorem Text.Delimited.not_isWordChar {rest : List Char} (h : Delimited rest) :
    ∀ c ∈ rest.head?, isWordChar c = false := by
  intro c hc
  obtain rfl | rfl := h c hc <;> rfl

/--
A word that ends an item differs from a word with a quote or an opening parenthesis behind it.
-/
theorem Text.Delimited.append_ne {rest : List Char} (h : Delimited rest) {w w' : List Char}
    (hw : ∀ c ∈ w, isWordChar c) (hw' : ∀ c ∈ w', isWordChar c) {c : Char} (hc : c = '"' ∨ c = '(')
    (cs : List Char) : w ++ rest ≠ w' ++ c :: cs := by
  intro heq
  have hword : isWordChar c = false := by
    obtain rfl | rfl := hc <;> rfl
  obtain ⟨-, rfl⟩ :=
    append_inj_of_head hw hw' h.not_isWordChar (forall_head?_cons hword _) heq
  obtain rfl | rfl := h c rfl <;> simp at hc

theorem TypeName.isWordChar_keyword (t : TypeName) : ∀ c ∈ t.keyword.toList, isWordChar c := by
  rw [← List.all_eq_true]
  cases t <;> decide

theorem TypeName.keyword_inj {t t' : TypeName} (h : t.keyword = t'.keyword) : t = t' := by
  cases t <;> cases t' <;> first | rfl | exact absurd h (by decide)

end Words

section Lists

theorem toList_application (name : String) (texts : List String) (rest : List Char) :
    (application name texts).toList ++ rest
      =
    name.toList ++ '(' :: ((", ".intercalate texts).toList ++ ')' :: rest) := by
  simp [application]

variable {α : Type} {text : α → String} {kind : α → Prop} {as bs : List α}

/--
The text of an application tells its name, its arguments and where it ends.
-/
theorem application_append_inj {name name' : String} (hname : IsName name) (hname' : IsName name')
    (hkind : ∀ a, kind a → ∀ rest, ((text a).toList ++ rest).head? ≠ some ')')
    (has : ∀ a ∈ as, kind a ∧ Tells text kind a) (hbs : ∀ b ∈ bs, kind b) {rest rest' : List Char}
    (h : (application name (as.map text)).toList ++ rest
      = (application name' (bs.map text)).toList ++ rest') :
    name = name' ∧ as = bs ∧ rest = rest' := by
  rw [toList_application, toList_application] at h
  obtain ⟨hnames, htail⟩ := append_inj_of_head hname.isWordChar hname'.isWordChar
    (forall_head?_cons rfl _) (forall_head?_cons rfl _) h
  obtain ⟨hargs, hrest⟩ := joined_append_inj hkind has hbs (List.cons.inj htail).2
  exact ⟨String.toList_inj.mp hnames, hargs, hrest⟩

end Lists

namespace Param.Legible

variable {p : Param}

theorem tells (h : p.Legible) : Tells Param.text Param.Legible p := by
  intro q hq rest rest' hrest hrest' heq
  have hsplit (p : Param) (rest : List Char) :
      p.text.toList ++ rest = p.name.toList ++ ':' :: ' ' :: (p.type.keyword.toList ++ rest) := by
    simp [Param.text]
  rw [hsplit, hsplit] at heq
  obtain ⟨hname, htail⟩ := append_inj_of_head h.name.isWordChar hq.name.isWordChar
    (forall_head?_cons rfl _) (forall_head?_cons rfl _) heq
  obtain ⟨htype, htail⟩ := append_inj_of_head p.type.isWordChar_keyword q.type.isWordChar_keyword
    hrest.not_isWordChar hrest'.not_isWordChar (List.cons.inj (List.cons.inj htail).2).2
  refine ⟨?_, htail⟩
  obtain ⟨name, type, location⟩ := p
  obtain ⟨name', type', location'⟩ := q
  obtain rfl := String.toList_inj.mp hname
  obtain rfl := TypeName.keyword_inj (String.toList_inj.mp htype)
  rw [Param.mk.injEq]
  exact ⟨rfl, rfl, h.location.trans hq.location.symm⟩

theorem text_inj {q : Param} (h : p.Legible) (hq : q.Legible) (heq : p.text = q.text) : p = q :=
  (h.tells q hq [] [] delimited_nil delimited_nil (by rw [heq])).1

theorem head?_text_ne (h : p.Legible) (rest : List Char) :
    (p.text.toList ++ rest).head? ≠ some ')' := by
  obtain ⟨c, cs, hname, hc, -⟩ := h.name.exists_cons
  have hne : c ≠ ')' := by
    rintro rfl
    cases hc
  simpa [Param.text, hname] using hne

end Param.Legible

namespace Expr

/--
The expression that is shown as a word.
-/
def ofWord (w : List Char) : Expr :=
  if w = "true".toList then .literal (.bool true) .start
  else if w = "false".toList then .literal (.bool false) .start
  else if w.all Char.isDigit then .literal (.integer (Nat.ofDigitChars 10 w 0)) .start
  else .var (String.ofList w) .start

theorem texts_eq_map (es : List Expr) : texts es = es.map text := by
  induction es with
  | nil => simp [texts]
  | cons e es ih => simp [texts, ih]

theorem text_integer (n : Nat) (l : Location) :
    (literal (.integer n) l).text.toList = Nat.toDigits 10 n := by
  rw [text, Literal.text]
  exact Nat.toList_repr

namespace IsWord

variable {e : Expr}

theorem isWordChar_text (h : e.IsWord) : ∀ c ∈ e.text.toList, isWordChar c := by
  cases h with
  | integer n =>
    rw [text_integer]
    exact fun c hc => isWordChar_of_isDigit (Nat.isDigit_of_mem_toDigits (by decide) (by decide) hc)
  | bool b =>
    rw [← List.all_eq_true]
    cases b <;> simp only [text, Literal.text] <;> decide
  | var h =>
    rw [text]
    exact h.isWordChar

theorem ofWord_text (h : e.IsWord) : ofWord e.text.toList = e := by
  cases h with
  | integer n =>
    have hdigits : (Nat.toDigits 10 n).all Char.isDigit := by
      rw [List.all_eq_true]
      exact fun c => Nat.isDigit_of_mem_toDigits (by decide) (by decide)
    have hne {w : List Char} (hw : w.all Char.isDigit = false) : Nat.toDigits 10 n ≠ w := by
      rintro rfl
      rw [hdigits] at hw
      cases hw
    rw [text_integer, ofWord, if_neg (hne rfl), if_neg (hne rfl), if_pos hdigits,
      Nat.ofDigitChars_ten_toDigits]
  | bool b => cases b <;> simp only [text, Literal.text] <;> rfl
  | @var name h =>
    obtain ⟨c, cs, hname, hc, -⟩ := h.exists_cons
    have hne {w : String} (hw : w ∈ keywords.map Prod.fst) : name.toList ≠ w.toList := by
      intro heq
      exact h.2 (String.toList_inj.mp heq ▸ hw)
    have hdigits : ¬ name.toList.all Char.isDigit := by
      simp [hname, (Class.isLetter_exclusive hc).2]
    rw [text, ofWord, if_neg (hne (by decide)), if_neg (hne (by decide)), if_neg hdigits,
      String.ofList_toList]

theorem text_ne_nil (h : e.IsWord) : e.text.toList ≠ [] := by
  cases h with
  | integer n =>
    rw [text_integer]
    exact Nat.toDigits_ne_nil
  | bool b => cases b <;> simp only [text, Literal.text] <;> decide
  | var h =>
    obtain ⟨c, cs, hname, -⟩ := h.exists_cons
    rw [text, hname]
    simp

end IsWord

theorem text_call (name : String) (args : List Expr) (l : Location) :
    (call name args l).text = application name (args.map text) := by
  rw [text, texts_eq_map]

theorem toList_text_string (content : String) (l : Location) (rest : List Char) :
    (literal (.string content) l).text.toList ++ rest
      =
    '"' :: (content.toList.flatMap escaped ++ '"' :: rest) := by
  rw [text, Literal.text, quoted]
  simp

namespace Legible

variable {e : Expr}

theorem head?_text_ne (h : e.Legible) (rest : List Char) :
    (e.text.toList ++ rest).head? ≠ some ')' := by
  have hword {w : List Char} (hw : ∀ c ∈ w, isWordChar c) (hne : w ≠ []) (rest : List Char) :
      (w ++ rest).head? ≠ some ')' := by
    obtain ⟨c, cs, rfl⟩ := List.exists_cons_of_ne_nil hne
    rintro ⟨⟩
    cases hw ')' (by simp)
  cases h with
  | word h => exact hword h.isWordChar_text h.text_ne_nil rest
  | string content =>
    rw [toList_text_string]
    simp
  | call h hargs =>
    obtain ⟨c, cs, hname, -⟩ := h.exists_cons
    rw [text_call, toList_application]
    exact hword h.isWordChar (by simp [hname]) _

/--
The text of an expression in functional notation tells the expression, and where it ends. The text
begins with a word, which may be empty, and the character behind the word tells the kind of the
expression.
-/
theorem tells (h : e.Legible) : Tells Expr.text Legible e := by
  have hempty : ∀ c ∈ ([] : List Char), isWordChar c := by simp
  induction h with
  | @word e h =>
    intro e' h' rest rest' hrest hrest' heq
    cases h' with
    | word h' =>
      obtain ⟨hwords, hrest⟩ := append_inj_of_head h.isWordChar_text h'.isWordChar_text
        hrest.not_isWordChar hrest'.not_isWordChar heq
      refine ⟨?_, hrest⟩
      rw [← h.ofWord_text, hwords, h'.ofWord_text]
    | string content =>
      rw [toList_text_string] at heq
      exact absurd heq (hrest.append_ne h.isWordChar_text hempty (.inl rfl) _)
    | call h' hargs =>
      rw [text_call, toList_application] at heq
      exact absurd heq (hrest.append_ne h.isWordChar_text h'.isWordChar (.inr rfl) _)
  | string content =>
    intro e' h' rest rest' hrest hrest' heq
    rw [toList_text_string] at heq
    cases h' with
    | word h' =>
      exact absurd heq.symm (hrest'.append_ne h'.isWordChar_text hempty (.inl rfl) _)
    | string content' =>
      rw [toList_text_string] at heq
      obtain ⟨hcontent, hrest⟩ := escaped_append_inj (List.cons.inj heq).2
      exact ⟨by rw [String.toList_inj.mp hcontent], hrest⟩
    | call h' hargs =>
      rw [text_call, toList_application] at heq
      have htail := (append_inj_of_head hempty h'.isWordChar (forall_head?_cons rfl _)
        (forall_head?_cons rfl _) heq).2
      cases htail
  | call h hargs ih =>
    intro e' h' rest rest' hrest hrest' heq
    rw [text_call] at heq
    cases h' with
    | word h' =>
      rw [toList_application] at heq
      exact absurd heq.symm (hrest'.append_ne h'.isWordChar_text h.isWordChar (.inr rfl) _)
    | string content' =>
      rw [toList_application, toList_text_string] at heq
      have htail := (append_inj_of_head h.isWordChar hempty (forall_head?_cons rfl _)
        (forall_head?_cons rfl _) heq).2
      cases htail
    | call h' hargs' =>
      rw [text_call] at heq
      obtain ⟨rfl, rfl, hrest⟩ := application_append_inj h h' (fun e he => he.head?_text_ne)
        (fun e he => ⟨hargs e he, ih e he⟩) hargs' heq
      exact ⟨rfl, hrest⟩

theorem text_inj {e' : Expr} (h : e.Legible) (h' : e'.Legible) (heq : e.text = e'.text) :
    e = e' :=
  (h.tells e' h' [] [] delimited_nil delimited_nil (by rw [heq])).1

end Legible

end Expr

end StartEnd
