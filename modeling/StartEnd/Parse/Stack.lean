import StartEnd.Parse.Run
import StartEnd.Reduction.Basic

/-!
This module contains the parse stack and what the moves of a parse do to it. A shift puts a token
on the stack, and a reduction replaces the right-hand side of its rule by the left-hand side.
-/

namespace StartEnd

/--
A grammar symbol on the stack with its value and the place where it begins.
-/
structure Entry where
  symbol : Symbol
  node : Node
  location : Location

abbrev Stack := List Entry

/--
Why a stack does not allow a reduction.
-/
inductive StackError where
  | underflow (r : Rule)
  | mismatch (found : List Symbol) (r : Rule)
  | refused (e : ReductionError)
deriving DecidableEq

def StackError.message : StackError → String
  | .underflow r => "parse stack underflow reducing " ++ r.text
  | .mismatch found r =>
    "parse stack `" ++ " ".intercalate (found.map Symbol.name) ++ "` does not match " ++ r.text
  | .refused e => e.message

namespace Stack

def symbols (stack : Stack) : List Symbol := (stack.map Entry.symbol).reverse

/--
The symbol under which a rule leaves its value. The empty statement that closes a list of
statements stands for the empty list behind it.
-/
def label (g : Grammar) (r : Rule) : Symbol :=
  match r with
  | .statementEmpty => .statementList
  | _ => g.lhs r

def shift (stack : Stack) (t : Token) : Stack := ⟨t.symbol, .token t, t.location⟩ :: stack

/--
Replaces the right-hand side of a rule by its left-hand side. The new entry begins where the first
of the replaced entries does, or at the lookahead if there is none.
-/
def reduce (g : Grammar) (stack : Stack) (r : Rule) (lookahead : Location) :
    Except StackError Stack :=
  let children := (stack.take (g.arity r)).reverse
  if children.length < g.arity r then .error (.underflow r)
  else if children.map Entry.symbol ≠ g.rhs r then
    .error (.mismatch (children.map Entry.symbol) r)
  else
    match r.reduce (children.map Entry.node) with
    | .error e => .error (.refused e)
    | .ok node =>
      let location := (children.head?.map Entry.location).getD lookahead
      .ok (⟨label g r, node, location⟩ :: stack.drop (g.arity r))

/--
Makes a move on a stack. A move that the stack does not allow is reported at the lookahead.
-/
def apply (g : Grammar) (stack : Stack) : Move → Except Diagnostic Stack
  | .shift t => .ok (stack.shift t)
  | .reduce r lookahead =>
    match stack.reduce g r lookahead with
    | .error e => .error (.fault e.message lookahead)
    | .ok stack => .ok stack

end Stack

end StartEnd
