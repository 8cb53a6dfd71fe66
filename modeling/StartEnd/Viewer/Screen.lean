import StartEnd.Viewer.Basic
import StartEnd.Viewer.Display

/-!
This module contains the screen of the viewer: the areas of its panes, the adjustment of their
scrolling to these areas, and the picture.
-/

namespace StartEnd

/--
The areas of a screen. The status bar is the last line. Above it, the source stands over the output
in the left column, and the stack over the trace in the right one.
-/
structure Layout where
  source : Area
  output : Area
  stack : Area
  trace : Area
  status : Area

namespace Layout

def percent (p length : Nat) : Nat := (p * length + 50) / 100

def ofSize (width height : Nat) : Layout :=
  let upper := height - 1
  let left := percent 55 width
  let right := width - left
  let source := percent 60 upper
  let stack := percent 40 upper
  { source := ⟨0, 0, left, source⟩
    output := ⟨0, source, left, upper - source⟩
    stack := ⟨left, 0, right, stack⟩
    trace := ⟨left, stack, right, upper - stack⟩
    status := ⟨0, upper, width, height - upper⟩ }

end Layout

namespace Viewer

def currentLine (v : Viewer) : Nat := (v.currentStep?.map fun s => s.location.line).getD 0

def currentStack (v : Viewer) : List Symbol := (v.currentStep?.map TraceStep.stack).getD []

def adjust (v : Viewer) (l : Layout) : Viewer :=
  { v with
    sourceScroll :=
      v.sourceScroll.adjust l.source.height (Text.lines v.source).length v.currentLine
    outputOffset :=
      Scroll.clamp v.outputOffset (Pane.outcomeLines v.outcome).length
        (Scroll.visible l.output.height)
    stackOffset := Scroll.ofList l.stack.height v.currentStack.length v.stackOffset
    traceOffset := Scroll.ofCurrent l.trace.height v.steps.length v.position v.traceOffset }

def statusBar (v : Viewer) : StatusBar :=
  { message := v.message
    current := v.position
    total := v.steps.length
    accepted := v.outcome.isOk
    playing := v.playing }

def panes (v : Viewer) (l : Layout) : List (Area × Pane) :=
  [(l.source,
      .source (v.focus == .source) l.source.height v.source v.currentLine v.isAtHalt
        v.sourceScroll.offset),
    (l.output, .output (v.focus == .output) l.output.height v.outcome v.outputOffset),
    (l.stack, .stack (v.focus == .stack) l.stack.height v.currentStack v.stackOffset),
    (l.trace, .trace (v.focus == .trace) l.trace.height v.steps v.position v.traceOffset)]

end Viewer

namespace Picture

def drawPane (width height : Nat) (area : Area) (p : Pane) (whole : Picture) : Picture :=
  let visible := area.clip width height
  whole.place area.x area.y (p.picture area visible)

/--
Draws a status bar into an area of a picture of the given size. Its halves are those of the whole
area.
-/
def drawBar (width height : Nat) (area : Area) (b : StatusBar) (whole : Picture) : Picture :=
  let visible := area.clip width height
  whole.place area.x area.y (b.picture (Layout.percent 50 area.width) visible.width visible.height)

end Picture

namespace Viewer

/--
The picture of a viewer whose scrolling has been adjusted to the screen.
-/
def screen (v : Viewer) (width height : Nat) : Picture :=
  let l := Layout.ofSize width height
  let panes := (v.panes l).foldl (fun whole (area, pane) => whole.drawPane width height area pane)
    (Picture.blank width height)
  panes.drawBar width height l.status v.statusBar

def draw (v : Viewer) (d : Display) : Viewer × Display :=
  let v := v.adjust (.ofSize d.width d.height)
  (v, d.draw (v.screen d.width d.height))

end Viewer

end StartEnd
