import StartEnd.Grammar.Table
import StartEnd.Json.Reader

/-!
This module contains the JSON form of production tables: an array of records. A record is written as
an object; when it is read, the order of its fields is free, other fields are ignored, and an array
of the three values will do as well.
-/

namespace StartEnd

namespace Record

def idToJson (id : UInt16) : Json := .ofNat id.toNat

def toJson (r : Record) : Json :=
  .record [("rule", idToJson r.rule), ("lhs", idToJson r.lhs),
    ("rhs", .array (r.rhs.map idToJson))]

def idOfJson? : Json → Option UInt16
  | .integer (.ofNat n) => if n < UInt16.size then some (.ofNat n) else none
  | _ => none

def idsOfJson? : Json → Option (List UInt16)
  | .array items => items.mapM idOfJson?
  | _ => none

def ofValues? (rule lhs rhs : Json) : Option Record := do
  return ⟨← idOfJson? rule, ← idOfJson? lhs, ← idsOfJson? rhs⟩

def field? (name : String) (fields : List Json.Field) : Option Json :=
  match fields.filter fun field => field.1 = some name with
  | [field] => some field.2
  | _ => none

def ofJson? : Json → Option Record
  | .array [rule, lhs, rhs] => ofValues? rule lhs rhs
  | .object fields =>
    if fields.any fun field => field.1.isNone then none
    else
      match field? "rule" fields, field? "lhs" fields, field? "rhs" fields with
      | some rule, some lhs, some rhs => ofValues? rule lhs rhs
      | _, _, _ => none
  | _ => none

def tableToJson (records : List Record) : Json := .array (records.map toJson)

def tableOfJson? : Json → Option (List Record)
  | .array items => items.mapM ofJson?
  | _ => none

end Record

/--
Loads a production table from its JSON text. The text is read completely before the table is
checked.
-/
def Grammar.ofText (text : String) : Except LoadError Grammar :=
  match (Json.read? text).bind Record.tableOfJson? with
  | none => .error .format
  | some records => ofRecords records

end StartEnd
