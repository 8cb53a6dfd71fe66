import StartEnd.Parse.Basic
import StartEnd.Program.Outline
import StartEnd.Viewer.Highlight
import StartEnd.Viewer.ListItem
import StartEnd.Viewer.Scroll

/-!
This module contains the panes of the viewer: the source text with the current line, the outline or
the diagnostics of the parse, the parse stack, and the list of steps.
-/

namespace StartEnd

/--
What a pane shows inside its borders.
-/
inductive PaneContent where
  -- Lines of text on a background, which is that of the borders as well.
  | text (base : Style) (lines : List (List Span))
  -- A list, at the left of which some columns stay free.
  | list (indent : Nat) (items : List ListItem)

/--
A box with a title and a content.
-/
structure Pane where
  title : String
  focused : Bool
  content : PaneContent

namespace Pane

def border (p : Pane) : Style :=
  if p.focused then (Style.ofColor Theme.focusedBorder).inBold
  else .ofColor Theme.normalBorder

/--
The visible part of a pane in the given area. Text keeps inside the borders of the visible part. A
list takes the room inside the borders of the whole area, so its items may be written over borders
that stand where the visible part is cut off.
-/
def picture (p : Pane) (area visible : Area) : Picture :=
  match p.content with
  | .text base lines =>
    Picture.box (p.border.onTopOf base) base p.title visible.width
      (lines.map (Picture.line base (visible.width - 2))) visible.height
  | .list indent items =>
    (Picture.box p.border {} p.title visible.width [] visible.height).writeItems
      (indent + 1) (area.width - 2 - indent) (items.take (area.height - 2))

def remark (title : String) (focused : Bool) (text : String) : Pane :=
  { title, focused, content := .text (.ofColor Theme.comment) [[⟨text, {}⟩]] }

def numberStyle (current atHalt : Bool) : Style :=
  if current && atHalt then (Style.ofColor Theme.error).inBold
  else if current then (Style.ofColor Theme.secondary).inBold
  else .ofColor Theme.comment

/--
The style of a piece of a source line. The current line has a background, and the line at which a
parse was halted has a style of its own.
-/
def sourceStyle (current atHalt : Bool) (style : Style) : Style :=
  if current && atHalt then ((Style.ofColor .white).onColor Theme.error).inBold
  else if current then style.onColor Theme.currentLine
  else style

def sourceLine (currentLine : Nat) (atHalt : Bool) (number : Nat) (text : String) : List Span :=
  let current := number == currentLine
  let spans := (Highlight.spans text.toList).map fun span =>
    { span with style := sourceStyle current atHalt span.style }
  ⟨Text.padLeft 4 (toString number) ++ " ", numberStyle current atHalt⟩ :: spans

/--
The pane of the source text, whose current line may be the one of a halt.
-/
def source (focused : Bool) (height : Nat) (source : String) (currentLine : Nat) (atHalt : Bool)
    (offset : Nat) : Pane :=
  let numbered := (Text.lines source).mapIdx fun i text => (i + 1, text)
  { title := " Source "
    focused
    content := .text {} ((Scroll.window height offset numbered).map fun l =>
      sourceLine currentLine atHalt l.1 l.2) }

def outcomeLines : Outcome → List String
  | .ok p => p.outline
  | .error ds => ds.map Diagnostic.text

def output (focused : Bool) (height : Nat) (outcome : Outcome) (offset : Nat) : Pane :=
  let style := Style.ofColor (if outcome.isOk then Theme.foreground else Theme.error)
  { title := if outcome.isOk then " AST " else " Diagnostics "
    focused
    content := .list 1 ((Scroll.window height offset (outcomeLines outcome)).map fun text =>
      { spans := [⟨text, {}⟩], style }) }

def stackItem (top : Bool) (depth : Nat) (s : Symbol) : ListItem :=
  let color := if s.isNonterminal then Theme.nonterminal else Theme.keyword
  { spans :=
      [⟨Text.padLeft 3 (toString depth) ++ " ", .ofColor Theme.comment⟩,
        ⟨s.name, { Style.ofColor color with bold := top }⟩] }

/--
The pane of a parse stack, whose earliest symbol is given first and shown last.
-/
def stack (focused : Bool) (height : Nat) (symbols : List Symbol) (offset : Nat) : Pane :=
  if symbols.isEmpty then remark " Parse Stack " focused "(empty)"
  else
    let numbered := (symbols.mapIdx fun i s => (i, s)).reverse
    { title := " Parse Stack "
      focused
      content := .list 0 ((Scroll.window height offset numbered).map fun l =>
        stackItem (l.1 + 1 == symbols.length) l.1 l.2) }

def actionStyle : TraceAction → Style
  | .shift _ _ => .ofColor Theme.keyword
  | .reduce _ => .ofColor Theme.nonterminal
  | .accept => (Style.ofColor Theme.success).inBold
  | .halt _ => (Style.ofColor Theme.error).inBold

def traceItem (current : Bool) (number : Nat) (s : TraceStep) : ListItem :=
  let style := actionStyle s.action
  { spans :=
      [⟨Text.padLeft 5 (toString number) ++ " ", .ofColor Theme.comment⟩,
        ⟨s.action.text, if current then (style.onColor Theme.currentLine).inBold else style⟩] }

def trace (focused : Bool) (height : Nat) (steps : List TraceStep) (current offset : Nat) : Pane :=
  let title := " Trace (" ++ toString steps.length ++ " steps) "
  if steps.isEmpty then remark title focused "(no steps recorded)"
  else
    let numbered := steps.mapIdx fun i s => (i, s)
    { title
      focused
      content := .list 0 ((Scroll.window height offset numbered).map fun l =>
        traceItem (l.1 == current) (l.1 + 1) l.2) }

end Pane

end StartEnd
