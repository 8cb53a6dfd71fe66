import StartEnd.Viewer.Picture

/-!
This module contains displays, on which pictures are drawn one after the other. Only the cells that
have changed are sent. The cell behind a wide glyph is not sent, so what was shown there before
stays. A line without wide glyphs is shown as it is drawn.
-/

namespace StartEnd

/--
A display with the picture that was drawn last and the cells that are shown.
-/
structure Display where
  width : Nat
  height : Nat
  drawn : Picture
  shown : Picture
deriving DecidableEq

namespace Display

def blank (width height : Nat) : Display :=
  ⟨width, height, Picture.blank width height, Picture.blank width height⟩

/--
The cells that a line shows after it has been drawn. A glyph in front of the line may hide its first
cell, and glyphs that reach into the line make its first cells stale, which are sent in any case.
-/
def drawLine (hidden : Bool) (stale : Nat) : (drawn line shown : List Cell) → List Cell
  | old :: drawn, new :: line, cell :: shown =>
    let sent := (new ≠ old || 0 < stale) && !hidden
    let reach := max (max new.width old.width) stale - 1
    (if sent then new else cell) :: drawLine (1 < new.width) reach drawn line shown
  | _, _, shown => shown

def drawLines : (drawn picture shown : Picture) → Picture
  | old :: drawn, line :: picture, cells :: shown =>
    drawLine false 0 old line cells :: drawLines drawn picture shown
  | _, _, shown => shown

def draw (d : Display) (p : Picture) : Display :=
  { d with drawn := p, shown := drawLines d.drawn p d.shown }

theorem drawLine_of_narrow (drawn line : List Cell) (hlength : drawn.length = line.length)
    (hdrawn : ∀ c ∈ drawn, c.width ≤ 1) (hline : ∀ c ∈ line, c.width ≤ 1) :
    drawLine false 0 drawn line drawn = line := by
  induction drawn generalizing line with
  | nil =>
    cases line with
    | nil => rfl
    | cons => simp at hlength
  | cons old drawn ih =>
    cases line with
    | nil => simp at hlength
    | cons new line =>
      have hold := hdrawn old (by simp)
      have hnew := hline new (by simp)
      have hreach : max (max new.width old.width) 0 - 1 = 0 := by omega
      have hhidden : decide (1 < new.width) = false := by simpa using hnew
      have hrest := ih line (by simpa using hlength) (fun c hc => hdrawn c (by simp [hc]))
        (fun c hc => hline c (by simp [hc]))
      simp only [drawLine, hreach, hhidden, hrest]
      by_cases h : new = old
      · simp [h]
      · simp [h]

end Display

end StartEnd
