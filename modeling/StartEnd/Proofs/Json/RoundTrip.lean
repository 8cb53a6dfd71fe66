import StartEnd.Proofs.Json.Scalar

/-!
This module contains the proof that a written JSON value is read back, on one line or indented.
-/

namespace StartEnd.Json

open Piece

namespace Cursor

variable {cursor : Cursor} {stack : List Open} {tail : List Char}

/--
The place behind a text that is read from a given place on.
-/
def run (cursor : Cursor) (cs : List Char) : Option Cursor :=
  (ofChars cs).bind (List.foldlM step cursor)

theorem run_eq_step {cs : List Char} {p : Piece}
    (h : ofChars cs = (ofChars tail).map (p :: ·)) :
    cursor.run cs = (cursor.step p).bind (·.run tail) := by
  unfold run
  rw [h]
  cases ofChars tail with
  | none => simp
  | some ps => rfl

theorem run_blanks {blanks : List Char} (h : ∀ c ∈ blanks, isBlank c = true) :
    cursor.run (blanks ++ tail) = cursor.run tail := by
  unfold run
  rw [ofChars_blanks h]

theorem run_punctuation {c : Char} {p : Piece} {next : Cursor} (hp : punctuation? c = some p)
    (hstep : cursor.step p = some next) : cursor.run (c :: tail) = next.run tail := by
  rw [run_eq_step (ofChars_punctuation hp), hstep]
  rfl

theorem run_quoted {s : String} {next : Cursor}
    (hstep : cursor.step (.scalar (.ofString s)) = some next) :
    cursor.run ((quoted (some s)).toList ++ tail) = next.run tail := by
  rw [run_eq_step (ofChars_quoted s tail), hstep]
  rfl

/--
The places where a value may begin, with the arrays and objects that are open in it.
-/
def Enters (cursor : Cursor) (stack : List Open) : Prop :=
  ∀ p, p ≠ .endArray → cursor.step p = enter stack p

theorem Enters.step_scalar (h : cursor.Enters stack) (value : Json) :
    cursor.step (.scalar value) = some ⟨.behind value, stack⟩ := h (.scalar value) (by simp)

theorem enters_value : Enters ⟨.value, stack⟩ stack := fun _ _ => rfl

theorem enters_firstItem : Enters ⟨.firstItem, stack⟩ (.array [] :: stack) := by
  intro p hp
  cases p with
  | endArray => contradiction
  | _ => rfl

end Cursor

open Cursor

/--
Reading the text of a value at a place where a value may begin ends behind that value.
-/
structure ReadsBack (style : Style) (j : Json) : Prop where
  run_write {cursor : Cursor} {stack : List Open} {tail : List Char} (depth : Nat)
    (henters : cursor.Enters stack) (hapart : Apart tail) :
    cursor.run ((j.write style depth).toList ++ tail) = Cursor.run ⟨.behind j, stack⟩ tail

section Layout

variable {style : Style} {tail : List Char}

theorem isBlank_lineBreak (style : Style) (depth : Nat) :
    ∀ c ∈ (style.lineBreak depth).toList, isBlank c = true := by
  intro c hc
  cases style with
  | compact => cases hc
  | indented =>
    obtain rfl | ⟨_, rfl⟩ : c = '\n' ∨ ¬ 2 * depth = 0 ∧ c = ' ' := by
      simpa [Style.lineBreak] using hc
    all_goals rfl

theorem apart_close {c : Char} (h : (punctuation? c).isSome = true) (depth : Nat) :
    Apart ((style.lineBreak depth).toList ++ c :: tail) :=
  .blanks_append (.of_punctuation h) (isBlank_lineBreak style depth)

theorem apart_writeItems (h : Apart tail) (depth : Nat) (items : List Json) :
    Apart ((writeItems style depth items).toList ++ tail) := by
  cases items with
  | nil => simpa [Json.writeItems] using h
  | cons item items =>
    simp only [Json.writeItems, String.toList_append, List.append_assoc]
    exact Apart.of_punctuation rfl

theorem apart_writeFields (h : Apart tail) (depth : Nat) (fields : List Field) :
    Apart ((writeFields style depth fields).toList ++ tail) := by
  cases fields with
  | nil => simpa [Json.writeFields] using h
  | cons field fields =>
    simp only [Json.writeFields, String.toList_append, List.append_assoc]
    exact Apart.of_punctuation rfl

end Layout

section Composite

variable {style : Style} {stack : List Open} {tail : List Char}

theorem run_writeItems {items : List Json} (h : ∀ j ∈ items, ReadsBack style j) (last : Json)
    (done : List Json) (depth outer : Nat) :
    Cursor.run ⟨.behind last, .array done :: stack⟩
        ((writeItems style depth items).toList ++ ((style.lineBreak outer).toList ++ ']' :: tail))
      = Cursor.run ⟨.behind (.array ((last :: done).reverse ++ items)), stack⟩ tail := by
  induction items generalizing last done with
  | nil =>
    simp only [Json.writeItems, String.toList_empty, List.nil_append, List.append_nil]
    rw [run_blanks (isBlank_lineBreak style outer), run_punctuation rfl rfl]
  | cons item items ih =>
    obtain ⟨hitem, hitems⟩ := List.forall_mem_cons.1 h
    have hcomma : Cursor.step ⟨.behind last, .array done :: stack⟩ .comma
        = some ⟨.value, .array (last :: done) :: stack⟩ := rfl
    simp only [Json.writeItems, String.toList_append, List.append_assoc, String.reduceToList,
      List.cons_append, List.nil_append]
    rw [run_punctuation rfl hcomma, run_blanks (isBlank_lineBreak style depth),
      hitem.run_write depth enters_value (apart_writeItems (apart_close rfl outer) depth items),
      ih hitems, List.reverse_cons (a := item), List.append_assoc]
    rfl

/--
The value of a field is read behind the name of the field.
-/
theorem run_value {value : Json} (h : ReadsBack style value) (done : List Field)
    (name : Option String) (depth : Nat) (hapart : Apart tail) :
    Cursor.run ⟨.colon done name, stack⟩
        (style.colon.toList ++ ((value.write style depth).toList ++ tail))
      = Cursor.run ⟨.behind value, .object done name :: stack⟩ tail := by
  have hcolon : Cursor.step ⟨.colon done name, stack⟩ .colon
      = some ⟨.value, .object done name :: stack⟩ := rfl
  cases style with
  | compact =>
    have htext : Style.compact.colon.toList = [':'] := rfl
    rw [htext, List.singleton_append, run_punctuation rfl hcolon,
      h.run_write depth enters_value hapart]
  | indented =>
    have htext : Style.indented.colon.toList = [':'] ++ [' '] := rfl
    have hblank : ∀ c ∈ [' '], isBlank c = true := List.all_eq_true.1 rfl
    rw [htext, List.append_assoc, List.singleton_append, run_punctuation rfl hcolon,
      run_blanks hblank, h.run_write depth enters_value hapart]

theorem run_writeFields {fields : List (String × Json)}
    (h : ∀ field ∈ fields, ReadsBack style field.2) (last : Json) (done : List Field)
    (name : Option String) (depth outer : Nat) :
    Cursor.run ⟨.behind last, .object done name :: stack⟩
        ((writeFields style depth (fields.map fun field => (some field.1, field.2))).toList
          ++ ((style.lineBreak outer).toList ++ '}' :: tail))
      = Cursor.run ⟨.behind (.object (((name, last) :: done).reverse
          ++ fields.map fun field => (some field.1, field.2))), stack⟩ tail := by
  induction fields generalizing last done name with
  | nil =>
    simp only [List.map_nil, Json.writeFields, String.toList_empty, List.nil_append,
      List.append_nil]
    rw [run_blanks (isBlank_lineBreak style outer), run_punctuation rfl rfl]
  | cons field fields ih =>
    obtain ⟨hvalue, hfields⟩ := List.forall_mem_cons.1 h
    have hcomma : Cursor.step ⟨.behind last, .object done name :: stack⟩ .comma
        = some ⟨.field ((name, last) :: done), stack⟩ := rfl
    have hname : Cursor.step ⟨.field ((name, last) :: done), stack⟩ (.scalar (.ofString field.1))
        = some ⟨.colon ((name, last) :: done) (some field.1), stack⟩ := rfl
    simp only [List.map_cons, Json.writeFields, String.toList_append, List.append_assoc,
      String.reduceToList, List.cons_append, List.nil_append]
    rw [run_punctuation rfl hcomma, run_blanks (isBlank_lineBreak style depth), run_quoted hname,
      run_value hvalue _ _ depth (apart_writeFields (apart_close rfl outer) depth _), ih hfields,
      List.reverse_cons (a := (some field.1, field.2)), List.append_assoc]
    rfl

end Composite

/--
The values whose texts denote them. The texts of decimals are not checked, and a string without
content has no text.
-/
inductive Exact : Json → Prop where
  | null : Exact .null
  | bool (value : Bool) : Exact (.bool value)
  | integer (n : Int) : Exact (.integer n)
  | string (s : String) : Exact (.ofString s)
  | array {items : List Json} (h : ∀ j ∈ items, Exact j) : Exact (.array items)
  | record {fields : List (String × Json)} (h : ∀ field ∈ fields, Exact field.2) :
    Exact (.record fields)

namespace ReadsBack

variable {style : Style}

theorem word {j : Json} (w : List Char) (htext : ∀ depth, (j.write style depth).toList = w)
    (hw : ∀ c ∈ w, isWordChar c = true) (hvalue : word? w = some j) : ReadsBack style j where
  run_write depth henters hapart := by
    rw [htext, run_eq_step (ofChars_word hw hvalue hapart), henters.step_scalar]
    rfl

theorem string (s : String) : ReadsBack style (.ofString s) where
  run_write depth henters hapart := by
    rw [Json.ofString, Json.write, run_quoted (henters.step_scalar (.ofString s))]
    rfl

theorem array {items : List Json} (h : ∀ j ∈ items, ReadsBack style j) :
    ReadsBack style (.array items) where
  run_write {cursor stack tail} depth henters hapart := by
    have hopen : cursor.step .beginArray = some ⟨.firstItem, stack⟩ := henters .beginArray (by simp)
    cases items with
    | nil =>
      simp only [Json.write, String.reduceToList, List.cons_append, List.nil_append]
      rw [run_punctuation rfl hopen, run_punctuation rfl rfl]
    | cons item items =>
      obtain ⟨hitem, hitems⟩ := List.forall_mem_cons.1 h
      simp only [Json.write, String.toList_append, List.append_assoc, String.reduceToList,
        List.cons_append, List.nil_append]
      rw [run_punctuation rfl hopen, run_blanks (isBlank_lineBreak style (depth + 1)),
        hitem.run_write _ enters_firstItem (apart_writeItems (apart_close rfl depth) _ items),
        run_writeItems hitems]
      rfl

theorem record {fields : List (String × Json)} (h : ∀ field ∈ fields, ReadsBack style field.2) :
    ReadsBack style (.record fields) where
  run_write {cursor stack tail} depth henters hapart := by
    have hopen : cursor.step .beginObject = some ⟨.firstField, stack⟩ :=
      henters .beginObject (by simp)
    cases fields with
    | nil =>
      simp only [Json.record, List.map_nil, Json.write, String.reduceToList, List.cons_append,
        List.nil_append]
      rw [run_punctuation rfl hopen, run_punctuation rfl rfl]
    | cons field fields =>
      obtain ⟨hvalue, hfields⟩ := List.forall_mem_cons.1 h
      have hname : Cursor.step ⟨.firstField, stack⟩ (.scalar (.ofString field.1))
          = some ⟨.colon [] (some field.1), stack⟩ := rfl
      simp only [Json.record, List.map_cons, Json.write, String.toList_append, List.append_assoc,
        String.reduceToList, List.cons_append, List.nil_append]
      rw [run_punctuation rfl hopen, run_blanks (isBlank_lineBreak style (depth + 1)),
        run_quoted hname, run_value hvalue _ _ _ (apart_writeFields (apart_close rfl depth) _ _),
        run_writeFields hfields]
      rfl

end ReadsBack

theorem Exact.readsBack {j : Json} (h : Exact j) (style : Style) : ReadsBack style j := by
  induction h with
  | null =>
    exact .word ['n', 'u', 'l', 'l'] (fun _ => by simp [Json.write]) (List.all_eq_true.1 rfl) rfl
  | bool value =>
    cases value with
    | false =>
      exact .word ['f', 'a', 'l', 's', 'e'] (fun _ => by simp [Json.write])
        (List.all_eq_true.1 rfl) rfl
    | true =>
      exact .word ['t', 'r', 'u', 'e'] (fun _ => by simp [Json.write]) (List.all_eq_true.1 rfl) rfl
  | integer n =>
    exact .word (toString n).toList (fun _ => by rw [Json.write]) (isWordChar_integer n)
      (word?_integer n)
  | string s => exact .string s
  | array h ih => exact .array ih
  | record h ih => exact .record ih

/--
What is written is read back, also if blanks follow.
-/
theorem Exact.read?_text {j : Json} (h : Exact j) (style : Style) {blanks : String}
    (hblanks : ∀ c ∈ blanks.toList, isBlank c = true) :
    read? (j.text style ++ blanks) = some j := by
  have hread : read? (j.text style ++ blanks)
      = (Cursor.run ⟨.value, []⟩ ((j.text style ++ blanks).toList)).bind Cursor.value? := by
    rw [read?, Cursor.run, Option.bind_assoc]
    rfl
  have hapart : Apart (blanks.toList ++ []) := .blanks_append (by simp [Apart]) hblanks
  have hnil : Cursor.run ⟨.behind j, []⟩ [] = some ⟨.behind j, []⟩ := by
    rw [Cursor.run, ofChars]
    rfl
  rw [hread, String.toList_append, ← List.append_nil blanks.toList, Json.text,
    (h.readsBack style).run_write 0 enters_value hapart, run_blanks hblanks, hnil]
  rfl

end StartEnd.Json
