/-!
This module contains the scrolling of panes: which part of a list of items a pane shows. Offsets
are adjusted whenever a pane is drawn.
-/

namespace StartEnd

namespace Scroll

/--
The number of items that a pane of the given height shows between its borders, but at least one.
-/
def visible (height : Nat) : Nat := max (height - 2) 1

def clamp (offset total visible : Nat) : Nat :=
  if visible < total then min offset (total - visible) else 0

/--
The offset nearest to the given one for which the current item is visible.
-/
def follow (offset current visible : Nat) : Nat :=
  if current < offset then current
  else if offset + visible ≤ current then current + 1 - visible
  else offset

def ofList (height total offset : Nat) : Nat :=
  if total = 0 then offset else clamp offset total (visible height)

/--
The offset of a list that follows its current item, unless it is empty.
-/
def ofCurrent (height total current offset : Nat) : Nat :=
  if total = 0 then offset
  else clamp (follow offset current (visible height)) total (visible height)

def window (height offset : Nat) (items : List α) : List α :=
  (items.drop offset).take (visible height)

end Scroll

/--
The scrolling of a source text. The current line is kept in a row of the pane, which is the middle
one unless it has been moved.
-/
structure SourceScroll where
  offset : Nat := 0
  row : Option Nat := none
deriving DecidableEq

namespace SourceScroll

def pinnedRow (s : SourceScroll) (height : Nat) : Nat :=
  min (s.row.getD (Scroll.visible height / 2)) (Scroll.visible height - 1)

/--
Adjusts the scrolling to a pane of the given height, a text of the given number of lines and the
number of the current line. A number that no line has moves nothing.
-/
def adjust (s : SourceScroll) (height total current : Nat) : SourceScroll :=
  let row := s.pinnedRow height
  let offset :=
    if 0 < current ∧ current ≤ total then
      Scroll.clamp (current - 1 - row) total (Scroll.visible height)
    else s.offset
  ⟨offset, some row⟩

def up (s : SourceScroll) : SourceScroll := { s with row := s.row.map (· + 1) }

def down (s : SourceScroll) : SourceScroll := { s with row := s.row.map (· - 1) }

end SourceScroll

end StartEnd
