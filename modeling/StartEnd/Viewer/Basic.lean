import StartEnd.Viewer.Pane
import StartEnd.Viewer.StatusBar

/-!
This module contains the viewer, which shows the steps of a parse one at a time. It is driven by
keys and by ticks of a clock, and its panes are adjusted whenever it is drawn.
-/

namespace StartEnd

inductive PaneName where
  | source
  | output
  | stack
  | trace
deriving DecidableEq

def PaneName.next : PaneName → PaneName
  | .source => .output
  | .output => .stack
  | .stack => .trace
  | .trace => .source

/--
The keys that the viewer tells apart.
-/
inductive Key where
  | char (c : Char)
  | left
  | right
  | up
  | down
  | tab
  | enter
  | backspace
  | other
deriving DecidableEq

/--
The state of the viewer. Times are in milliseconds.
-/
structure Viewer where
  source : String
  steps : List TraceStep
  outcome : Outcome
  -- The index of the step that is shown.
  position : Nat := 0
  focus : PaneName := .source
  sourceScroll : SourceScroll := {}
  outputOffset : Nat := 0
  stackOffset : Nat := 0
  traceOffset : Nat := 0
  quit : Bool := false
  message : String := "Ready!"
  playing : Bool := false
  -- When the replay advanced last.
  advanced : Nat := 0
  -- When the replay was started or paused last.
  toggled : Option Nat := none

namespace Viewer

def currentStep? (v : Viewer) : Option TraceStep := v.steps[v.position]?

def isAtHalt (v : Viewer) : Bool :=
  match v.currentStep? with
  | some ⟨.halt _, _, _⟩ => true
  | _ => false

def forward (v : Viewer) : Bool × Viewer :=
  if v.position + 1 < v.steps.length then (true, { v with position := v.position + 1 })
  else (false, v)

def backward (v : Viewer) : Bool × Viewer :=
  if 0 < v.position then (true, { v with position := v.position - 1 }) else (false, v)

def toEnd (v : Viewer) : Viewer := { v with position := v.steps.length - 1 }

def toStart (v : Viewer) : Viewer := { v with position := 0 }

def focusNext (v : Viewer) : Viewer := { v with focus := v.focus.next }

/--
Goes forward up to the given number of steps, and tells how many there were.
-/
def forwardBy : Nat → Viewer → Nat × Viewer
  | 0, v => (0, v)
  | n + 1, v =>
    match v.forward with
    | (false, v) => (0, v)
    | (true, v) =>
      let moved := forwardBy n v
      (moved.1 + 1, moved.2)

def pause (v : Viewer) : Viewer := { v with playing := false }

def say (message : String) (v : Viewer) : Viewer := { v with message }

def scrollUp (v : Viewer) : Viewer :=
  match v.focus with
  | .source => { v with sourceScroll := v.sourceScroll.up }
  | .output => { v with outputOffset := v.outputOffset - 1 }
  | .stack => { v with stackOffset := v.stackOffset - 1 }
  | .trace => { v with traceOffset := v.traceOffset - 1 }

def scrollDown (v : Viewer) : Viewer :=
  match v.focus with
  | .source => { v with sourceScroll := v.sourceScroll.down }
  | .output => { v with outputOffset := v.outputOffset + 1 }
  | .stack => { v with stackOffset := v.stackOffset + 1 }
  | .trace => { v with traceOffset := v.traceOffset + 1 }

def toggle (now : Nat) (v : Viewer) : Viewer :=
  if v.toggled.any fun time => now - time < 200 then v
  else
    { v with
      playing := !v.playing
      message := if v.playing then "Paused" else "Playing..."
      toggled := now }

def press (now : Nat) (key : Key) (v : Viewer) : Viewer :=
  match key with
  | .char c =>
    if c = 'q' ∨ c = 'Q' then { v with quit := true }
    else if '1' ≤ c ∧ c ≤ '9' then
      let (count, v) := v.pause.forwardBy (c.toNat - '0'.toNat)
      v.say ("Stepped forward " ++ toString count ++ " step(s)")
    else if c = ' ' then v.toggle now
    else v
  | .tab => v.focusNext
  | .left =>
    match v.pause.backward with
    | (true, v) => v.say "Stepped backward"
    | (false, v) => v.say "Already at the first step"
  | .right =>
    match v.pause.forward with
    | (true, v) => v.say "Stepped forward"
    | (false, v) => v.say "Already at the last step"
  | .up => v.scrollUp
  | .down => v.scrollDown
  | .enter => v.pause.toEnd.say "Jumped to end"
  | .backspace => v.pause.toStart.say "Jumped to start"
  | .other => v

/--
Advances the replay if it runs and has waited long enough. It stops behind the last step.
-/
def tick (now : Nat) (v : Viewer) : Viewer :=
  if v.playing && 400 ≤ now - v.advanced then
    match v.forward with
    | (true, v) => { v with message := "Playing...", advanced := now }
    | (false, v) => { v with playing := false, message := "Playback complete", advanced := now }
  else v

end Viewer

end StartEnd
