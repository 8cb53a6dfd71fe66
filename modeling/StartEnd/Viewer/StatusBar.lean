import StartEnd.Viewer.Picture

/-!
This module contains the status bar of the viewer: the number of the current step and a message at
the left, and the keys and the state of the replay at the right.
-/

namespace StartEnd

/--
What a status bar shows.
-/
structure StatusBar where
  message : String
  current : Nat
  total : Nat
  accepted : Bool
  playing : Bool

namespace StatusBar

def base : Style := { background := Theme.currentLine }

def plain : Style := (Style.ofColor Theme.foreground).onColor Theme.currentLine

def faint : Style := (Style.ofColor Theme.comment).onColor Theme.currentLine

def key : Style := (Style.ofColor .black).onColor Theme.comment

def badge (c : Color) : Style := ((Style.ofColor .black).onColor c).inBold

def left (b : StatusBar) : List Span :=
  let step := " Step " ++ toString (b.current + 1) ++ "/" ++ toString (max b.total 1) ++ " "
  [⟨step, badge (if b.accepted then Theme.primary else Theme.error)⟩, ⟨" | ", faint⟩,
    ⟨" " ++ b.message ++ " ", plain⟩]

/--
The label that shows the state of the replay, if there is something to be said.
-/
def indicator (b : StatusBar) : Option (String × Color) :=
  if b.playing then some (" ▶ PLAYING ", Theme.secondary)
  else if b.total ≤ b.current + 1 then
    if b.accepted then some (" ACCEPT ", Theme.success) else some (" HALT ", Theme.error)
  else if b.current = 0 then some (" START ", Theme.success)
  else none

def separator : Span := ⟨"│", faint⟩

def keys : List Span :=
  [⟨" ←/→ ", key⟩, ⟨" step ", plain⟩, separator, ⟨" ", plain⟩, ⟨" ⎵ ", key⟩, ⟨" play ", plain⟩,
    separator, ⟨" ", plain⟩, ⟨" ↵ / ⌫ ", key⟩, ⟨" end/start ", plain⟩, separator, ⟨" ", plain⟩,
    ⟨"q", key⟩, ⟨" quit ", plain⟩]

def right (b : StatusBar) : List Span :=
  keys ++
    match b.indicator with
    | some (label, color) => [separator, ⟨label, badge color⟩]
    | none => []

def line (b : StatusBar) (half width : Nat) : List Cell :=
  let half := min half width
  Picture.line base half b.left ++ Picture.lineAtRight base (width - half) b.right

/--
The picture of a status bar. All of it has the background of the bar.
-/
def picture (b : StatusBar) (half width : Nat) : Nat → Picture
  | 0 => []
  | height + 1 => b.line half width :: List.replicate height (Picture.blankLine base width)

end StatusBar

end StartEnd
