import StartEnd.Text.Grapheme
import StartEnd.Text.Width
import StartEnd.Viewer.Style

/-!
This module contains pieces of styled text, and the glyphs that are shown for them.
-/

namespace StartEnd

/--
A piece of text in one style.
-/
structure Span where
  text : String
  style : Style
deriving DecidableEq

/--
What is shown for a grapheme cluster, and the number of columns that it takes.
-/
structure Glyph where
  symbol : String
  width : Nat
  style : Style
deriving DecidableEq

namespace Span

def width (s : Span) : Nat := Text.width s.text.toList

/--
The glyphs of a span. A line feed has none.
-/
def glyphs (s : Span) : List Glyph :=
  ((Text.graphemes s.text.toList).filter (· ≠ ['\n'])).map fun cluster =>
    ⟨String.ofList cluster, Text.width cluster, s.style⟩

end Span

namespace Glyph

def columns : List Glyph → Nat
  | [] => 0
  | g :: glyphs => g.width + columns glyphs

/--
The glyphs up to the first one for which a line of the given width has no room left.
-/
def takeColumns (width : Nat) : List Glyph → List Glyph
  | [] => []
  | g :: glyphs =>
    if g.width ≤ width then g :: takeColumns (width - g.width) glyphs else []

theorem columns_takeColumns_le (width : Nat) (glyphs : List Glyph) :
    columns (takeColumns width glyphs) ≤ width := by
  induction glyphs generalizing width with
  | nil => simp [takeColumns, columns]
  | cons g glyphs ih =>
    simp only [takeColumns]
    split
    · have := ih (width - g.width)
      simp only [columns] at this ⊢
      omega
    · simp [columns]

/--
The glyphs of a line of text. Those without columns and those wider than the line are left out.
-/
def ofLine (width : Nat) (spans : List Span) : List Glyph :=
  takeColumns width
    ((spans.flatMap Span.glyphs).filter fun g => 0 < g.width && g.width ≤ width)

end Glyph

end StartEnd
