import StartEnd.CommandLine.Run
import StartEnd.Proofs.Json.RoundTrip

/-!
This module contains the proof that a production table is read back from its JSON text, so that
loading the text is loading the table.
-/

namespace StartEnd

namespace Record

theorem idOfJson?_idToJson (id : UInt16) : idOfJson? (idToJson id) = some id := by
  have hlt : id.toNat < UInt16.size := id.toNat_lt
  have hid : UInt16.ofNat id.toNat = id := UInt16.ofNat_toNat
  show (if id.toNat < UInt16.size then some (UInt16.ofNat id.toNat) else none) = some id
  rw [if_pos hlt, hid]

theorem idsOfJson?_map (ids : List UInt16) :
    idsOfJson? (.array (ids.map idToJson)) = some ids :=
  Json.mapM_map_of_forall idOfJson?_idToJson ids

theorem ofJson?_toJson (r : Record) : ofJson? r.toJson = some r := by
  have hvalues : ofJson? r.toJson
      = ofValues? (idToJson r.rule) (idToJson r.lhs) (.array (r.rhs.map idToJson)) := rfl
  rw [hvalues, ofValues?, idOfJson?_idToJson, idOfJson?_idToJson, idsOfJson?_map]
  rfl

theorem tableOfJson?_tableToJson (records : List Record) :
    tableOfJson? (tableToJson records) = some records :=
  Json.mapM_map_of_forall ofJson?_toJson records

theorem exact_idToJson (id : UInt16) : (idToJson id).Exact := .integer id.toNat

theorem exact_toJson (r : Record) : r.toJson.Exact := by
  have hrhs : (Json.array (r.rhs.map idToJson)).Exact :=
    .array (List.forall_mem_map.2 fun id _ => exact_idToJson id)
  apply Json.Exact.record
  simpa [exact_idToJson] using hrhs

theorem exact_tableToJson (records : List Record) : (tableToJson records).Exact :=
  .array (List.forall_mem_map.2 fun r _ => exact_toJson r)

theorem read?_tableToJson (records : List Record) (style : Json.Style) {blanks : String}
    (hblanks : ∀ c ∈ blanks.toList, Json.Piece.isBlank c = true) :
    (Json.read? ((tableToJson records).text style ++ blanks)).bind tableOfJson? = some records := by
  rw [(exact_tableToJson records).read?_text style hblanks, Option.bind_some,
    tableOfJson?_tableToJson]

end Record

namespace Grammar

theorem ofText_of_blanks (records : List Record) (style : Json.Style) {blanks : String}
    (hblanks : ∀ c ∈ blanks.toList, Json.Piece.isBlank c = true) :
    ofText ((Record.tableToJson records).text style ++ blanks) = ofRecords records := by
  rw [ofText, Record.read?_tableToJson records style hblanks]

/--
A table that is written out is loaded from its text as it is, whether it is accepted or not. This
also holds for the text that is printed, which ends its line.
-/
theorem ofText_written (records : List Record) :
    (∀ style, ofText ((Record.tableToJson records).text style) = ofRecords records)
      ∧ ofText (CommandLine.Result.printed [(Record.tableToJson records).text .indented]).output
        = ofRecords records := by
  constructor
  · intro style
    have hempty : ofText ((Record.tableToJson records).text style ++ "") = ofRecords records :=
      ofText_of_blanks records style (by simp)
    rwa [String.append_empty] at hempty
  · have hprinted (text : String) : (CommandLine.Result.printed [text]).output = text ++ "\n" := by
      simp [CommandLine.Result.printed, String.join]
    rw [hprinted]
    exact ofText_of_blanks records .indented (by simp [Json.Piece.isBlank])

end Grammar

end StartEnd
