import StartEnd.Json.Piece

/-!
This module contains the reading of JSON texts. The pieces of a text are taken one after the other,
while the arrays and objects that are still open wait on a stack.
-/

namespace StartEnd.Json

abbrev Field := Option String × Json

/--
An array or object that is still open, with what it contains so far, the latest first.
-/
inductive Open where
  | array (items : List Json)
  | object (fields : List Field) (name : Option String)

/--
What has to come next.
-/
inductive Await where
  | value
  | firstItem
  | firstField
  | field (fields : List Field)
  | colon (fields : List Field) (name : Option String)
  -- Something that goes on behind a value.
  | behind (value : Json)

/--
A place in a JSON text.
-/
structure Cursor where
  await : Await
  stack : List Open

namespace Cursor

def enter (stack : List Open) : Piece → Option Cursor
  | .scalar value => some ⟨.behind value, stack⟩
  | .beginArray => some ⟨.firstItem, stack⟩
  | .beginObject => some ⟨.firstField, stack⟩
  | _ => none

def step (cursor : Cursor) (p : Piece) : Option Cursor :=
  match cursor.await, cursor.stack, p with
  | .value, stack, p => enter stack p
  | .firstItem, stack, .endArray => some ⟨.behind (.array []), stack⟩
  | .firstItem, stack, p => enter (.array [] :: stack) p
  | .firstField, stack, .endObject => some ⟨.behind (.object []), stack⟩
  | .firstField, stack, .scalar (.string name) => some ⟨.colon [] name, stack⟩
  | .field fields, stack, .scalar (.string name) => some ⟨.colon fields name, stack⟩
  | .colon fields name, stack, .colon => some ⟨.value, .object fields name :: stack⟩
  | .behind value, .array items :: stack, .comma => some ⟨.value, .array (value :: items) :: stack⟩
  | .behind value, .array items :: stack, .endArray =>
    some ⟨.behind (.array (value :: items).reverse), stack⟩
  | .behind value, .object fields name :: stack, .comma =>
    some ⟨.field ((name, value) :: fields), stack⟩
  | .behind value, .object fields name :: stack, .endObject =>
    some ⟨.behind (.object ((name, value) :: fields).reverse), stack⟩
  | _, _, _ => none

def value? : Cursor → Option Json
  | ⟨.behind value, []⟩ => some value
  | _ => none

end Cursor

def ofPieces? (pieces : List Piece) : Option Json :=
  (pieces.foldlM Cursor.step ⟨.value, []⟩).bind Cursor.value?

def read? (text : String) : Option Json := (Piece.ofChars text.toList).bind ofPieces?

end StartEnd.Json
