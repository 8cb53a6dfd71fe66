import StartEnd.Viewer.Picture

/-!
This module contains the items of lists. An item is written over a line of a picture, where what it
does not cover stays.
-/

namespace StartEnd

/--
An item of a list. Its style covers the whole line.
-/
structure ListItem where
  spans : List Span
  style : Style := {}
deriving DecidableEq

namespace ListItem

def hideBehind (column : Nat) (g : Glyph) (row : List Cell) : List Cell :=
  Picture.placeLine (column + 1) (Picture.blankLine {} (g.width - 1)) row

/--
Writes the glyphs of a span from a column on, up to the first one that finds no room. One without
columns is attached to the cell in front of it, and in the first column to what is there.
-/
def writeGlyphs (column : Nat) : List Glyph → List Cell → List Cell
  | [], row => row
  | g :: glyphs, row =>
    if row.length < column + g.width then row
    else
      let row :=
        if column = 0 || g.width = 0 then row.modify (column - 1) (·.attach g)
        else row.modify column (·.put g)
      writeGlyphs (column + g.width) glyphs (hideBehind column g row)

/--
Writes the glyphs of a span over the cells of a line. The first one always has a cell of its own.
-/
def writeSpan : List Glyph → List Cell → List Cell
  | [], row => row
  | g :: glyphs, row =>
    if row.length < g.width then row
    else writeGlyphs g.width glyphs (hideBehind 0 g (row.modify 0 (·.put g)))

/--
Writes spans one after the other over the cells of a line. A span without columns is left out.
-/
def writeSpans : List Span → List Cell → List Cell
  | [], row => row
  | s :: spans, row =>
    if s.width = 0 then writeSpans spans row
    else
      let row := writeSpan s.glyphs row
      row.take s.width ++ writeSpans spans (row.drop s.width)

def write (item : ListItem) (row : List Cell) : List Cell :=
  writeSpans item.spans (row.map (·.tint item.style))

end ListItem

namespace Picture

def changeLine (x width : Nat) (change : List Cell → List Cell) (row : List Cell) : List Cell :=
  row.take x ++ change ((row.drop x).take width) ++ row.drop (x + width)

/--
Writes items over a part of the lines of a picture, from the second line on.
-/
def writeItems (x width : Nat) (items : List ListItem) : Picture → Picture
  | [] => []
  | top :: rows =>
    top :: List.zipWith (fun item => changeLine x width item.write) items rows
      ++ rows.drop items.length

end Picture

end StartEnd
