import StartEnd.Session

/-!
This module contains parsers: sessions together with what a parse works on. A parse changes these
fields move by move, and what it leaves in them is forgotten when the parser parses again.
-/

namespace StartEnd

/--
A session and what a parse works on: the number of tokens that have been taken, the stack, the
diagnostics that nobody has received, the terminals that would have been accepted since the last
token was taken, and the number of levels that have been entered around what is parsed.
-/
structure Parser extends Session where
  position : Nat := 0
  stack : Stack := []
  reporter : Reporter := {}
  expected : List Symbol := []
  depth : Nat := 0

/--
What becomes of a parser in front of a token.
-/
inductive Turn where
  -- It has taken the token and has goals to do behind it.
  | taken (goals : List Goal) (p : Parser)
  -- It has done all goals.
  | done (p : Parser)
  -- It has stopped, and has reported why.
  | stopped (p : Parser)

namespace Parser

def ofTokens (grammar : Grammar) (tokens : List Token) : Parser :=
  { toSession := .ofTokens grammar tokens }

def ofSource (grammar : Grammar) (source : String) : Parser :=
  { toSession := .ofSource grammar source }

def withMaxDepth (p : Parser) (maxDepth : Nat) : Parser := { p with maxDepth }

def withLog (p : Parser) (log : StepLog) : Parser := { p with log }

def takeLog (p : Parser) : Option StepLog × Parser := (p.log, { p with log := none })

/--
Forgets the last parse.
-/
def reset (p : Parser) : Parser :=
  { p with
    position := 0
    stack := []
    reporter := p.reporter.drain.2
    expected := []
    depth := 0
    log := p.log.map StepLog.clear }

/--
Offers a step to the log, unless the log has refused one before.
-/
def addStep (p : Parser) (step : TraceStep) : Parser :=
  { p with log := p.log.map fun log => if log.truncated then log else (log.push step).2 }

def halt (p : Parser) (d : Diagnostic) : Parser :=
  { p with reporter := p.reporter.record d }.addStep (Parse.stepOfHalt d p.stack)

def shift (p : Parser) (t : Token) : Parser :=
  let stack := p.stack.shift t
  { p with position := p.position + 1, expected := [], stack }.addStep
    (Parse.stepOfMove (.shift t) stack)

/--
Reduces by rules in front of a token. A rule that the stack does not allow stops the parser.
-/
def reduceAll (p : Parser) (t : Token) : List Rule → Except Parser Parser
  | [] => .ok p
  | r :: rules =>
    match p.stack.apply p.grammar (.reduce r t.location) with
    | .error d => .error (p.halt d)
    | .ok stack =>
      ({ p with stack }.addStep (Parse.stepOfMove (.reduce r t.location) stack)).reduceAll t rules

def expecting (p : Parser) (symbols : List Symbol) : Parser :=
  { p with expected := p.expected ++ symbols }

/--
Stops in front of a token that does not fit the grammar.
-/
def refuse (p : Parser) (t : Token) : Parser :=
  { p with expected := [] }.halt (.unexpected t p.expected)

/--
Does goals in front of a token, up to the first one that needs it.
-/
def settle (p : Parser) (t : Token) : List Goal → Turn
  | [] => .done p
  | goal :: goals =>
    match goal.answer p.grammar t.symbol with
    | .met rules unmet =>
      match (p.expecting unmet).reduceAll t rules with
      | .error p => .stopped p
      | .ok p => p.settle t goals
    | .shift first => .taken (first ++ goals) (p.shift t)
    | .refuse unmet => .stopped ((p.expecting unmet).refuse t)
    | .tooDeep => .stopped (p.halt (.tooDeep p.maxDepth t))

def meet (p : Parser) (t : Token) (goals : List Goal) : Turn :=
  match t.fault? with
  | some complaint => .stopped (p.halt (.badToken t complaint))
  | none => p.settle t goals

/--
Takes the program from the stack in front of the token that ends the input.
-/
def accept (p : Parser) (t : Token) : Option Program × Parser :=
  let rest := { p.addStep ⟨.accept, p.stack.symbols, t.location⟩ with stack := p.stack.tail }
  match Parse.result t.location p.stack with
  | .ok program => (some program, rest)
  | .error d => (none, rest.halt d)

/--
What a parser yields that has met a token, given what it does behind the token.
-/
def conclude (t : Token) (behind : List Goal → Parser → Option Program × Parser) :
    Turn → Option Program × Parser
  | .taken goals p => behind goals p
  | .done p => p.accept t
  | .stopped p => (none, p)

/--
Does goals on a list of tokens, behind a token at the given place. The budgets of the goals count
the levels that are entered here. Each of them is left again, also if the parser stops in it, so
that the depth stays what it is.
-/
def run : List Goal → Location → List Token → Parser → Option Program × Parser
  | goals, last, [], p =>
    conclude (.eof last) (fun _ p => (none, p)) (p.meet (.eof last) goals)
  | goals, _, t :: ts, p =>
    conclude t (fun goals p => run goals t.location ts p) (p.meet t goals)

/--
Hands over the program, or the diagnostics of a parser that has stopped.
-/
def deliver : Option Program × Parser → Outcome × Parser
  | (some program, p) => (.ok program, p)
  | (none, p) =>
    let (pending, reporter) := p.reporter.drain
    (.error pending, { p with reporter })

def parse (p : Parser) : Outcome × Parser :=
  let p := p.reset
  deliver (run (Goal.program (p.maxDepth - p.depth)) .start (p.tokens.drop p.position) p)

end Parser

end StartEnd
