import StartEnd.Viewer.Span

/-!
This module contains pictures, which are rows of styled cells, and how text, borders and other
pictures are put into them. A glyph stands in the first of the cells that it takes and hides the
others.
-/

namespace StartEnd

structure Cell where
  symbol : String := " "
  style : Style := {}
deriving DecidableEq

namespace Cell

def width (c : Cell) : Nat := Text.width c.symbol.toList

def tint (c : Cell) (style : Style) : Cell := { c with style := style.onTopOf c.style }

def put (c : Cell) (g : Glyph) : Cell := { c.tint g.style with symbol := g.symbol }

def attach (c : Cell) (g : Glyph) : Cell := { c.tint g.style with symbol := c.symbol ++ g.symbol }

end Cell

abbrev Picture := List (List Cell)

/--
A rectangle of cells.
-/
structure Area where
  x : Nat
  y : Nat
  width : Nat
  height : Nat
deriving DecidableEq

namespace Area

def clip (a : Area) (width height : Nat) : Area :=
  { x := a.x
    y := a.y
    width := min (a.x + a.width) width - a.x
    height := min (a.y + a.height) height - a.y }

end Area

namespace Picture

def blankLine (style : Style) (width : Nat) : List Cell := List.replicate width { style }

def blank (width height : Nat) : Picture := List.replicate height (blankLine {} width)

/--
The cells of glyphs that are written one after the other on a background.
-/
def cells (base : Style) (glyphs : List Glyph) : List Cell :=
  glyphs.flatMap fun g => Cell.put { style := base } g :: blankLine base (g.width - 1)

def line (base : Style) (width : Nat) (spans : List Span) : List Cell :=
  let text := Glyph.ofLine width spans
  cells base text ++ blankLine base (width - Glyph.columns text)

/--
A line of text that ends at the given width. One that is too wide shows its beginning.
-/
def lineAtRight (base : Style) (width : Nat) (spans : List Span) : List Cell :=
  let text := Glyph.ofLine width spans
  blankLine base (width - Glyph.columns text) ++ cells base text

def edge (style : Style) (left right : Char) (text : String) : Nat → List Cell
  | 0 => []
  | 1 => [⟨left.toString, style⟩]
  | width + 2 =>
    let chars := text.toList.take width
    let fill := List.replicate (width - chars.length) '─'
    (left :: chars ++ fill ++ [right]).map fun c => ⟨c.toString, style⟩

def wall (style : Style) (content : List Cell) : Nat → List Cell
  | 0 => []
  | 1 => [⟨"│", style⟩]
  | _ => ⟨"│", style⟩ :: content ++ [⟨"│", style⟩]

/--
A box with a title around the given lines. What the lines leave free is filled in the base style.
-/
def box (border base : Style) (title : String) (width : Nat) (content : Picture) :
    Nat → Picture
  | 0 => []
  | 1 => [edge border '┌' '┐' title width]
  | height + 2 =>
    let lines := content.take height
    let free := List.replicate (height - lines.length) (blankLine base (width - 2))
    edge border '┌' '┐' title width :: (lines ++ free).map (wall border · width)
      ++ [edge border '└' '┘' "" width]

def placeLine (x : Nat) (cells row : List Cell) : List Cell :=
  row.take x ++ cells ++ row.drop (x + cells.length)

def place (whole : Picture) (x y : Nat) (part : Picture) : Picture :=
  whole.take y ++ List.zipWith (placeLine x) part (whole.drop y) ++ whole.drop (y + part.length)

end Picture

end StartEnd
