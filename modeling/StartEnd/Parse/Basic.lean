import StartEnd.Parse.Stack
import StartEnd.Trace.Step

/-!
This module contains finished parses: the stack after each move, the outcome, which is the program
or the diagnostic that stopped the parse, and the steps by which the parse is shown.
-/

namespace StartEnd

abbrev Outcome := Except (List Diagnostic) Program

/--
A finished parse: its moves, each with the stack behind it, the last stack, and how it ended.
-/
structure Parse where
  history : List (Move × Stack)
  stack : Stack
  ending : Ending

namespace Parse

/--
Makes moves on a stack. A move that the stack does not allow ends the parse.
-/
def replay (g : Grammar) (ending : Ending) : Stack → List Move → Parse
  | stack, [] => ⟨[], stack, ending⟩
  | stack, move :: moves =>
    match stack.apply g move with
    | .error d => ⟨[], stack, .halt d⟩
    | .ok next =>
      let rest := replay g ending next moves
      { rest with history := (move, next) :: rest.history }

/--
Parses a list of tokens whose constructs may be nested up to the given depth.
-/
def ofTokens (g : Grammar) (maxDepth : Nat) (tokens : List Token) : Parse :=
  let run := Run.ofTokens g maxDepth tokens
  replay g run.ending [] run.moves

def result (lookahead : Location) : Stack → Except Diagnostic Program
  | [⟨_, .program p, _⟩] => .ok p
  | _ => .error (.fault "parse stack does not hold a single program at accept" lookahead)

def outcome (p : Parse) : Outcome :=
  match p.ending with
  | .halt d => .error [d]
  | .accept lookahead => (result lookahead p.stack).mapError fun d => [d]

def stepOfMove (move : Move) (stack : Stack) : TraceStep :=
  match move with
  | .shift t => ⟨.shift t.symbol t.lexeme, stack.symbols, t.location⟩
  | .reduce r lookahead =>
    ⟨.reduce r, stack.symbols, (stack.head?.map Entry.location).getD lookahead⟩

def stepOfHalt (d : Diagnostic) (stack : Stack) : TraceStep :=
  ⟨.halt d.kind, stack.symbols, d.location⟩

def lastSteps (stack : Stack) : Ending → List TraceStep
  | .halt d => [stepOfHalt d stack]
  | .accept lookahead =>
    ⟨.accept, stack.symbols, lookahead⟩ ::
      match result lookahead stack with
      | .ok _ => []
      | .error d => [stepOfHalt d stack.tail]

def steps (p : Parse) : List TraceStep :=
  p.history.map (fun (move, stack) => stepOfMove move stack) ++ lastSteps p.stack p.ending

end Parse

end StartEnd
