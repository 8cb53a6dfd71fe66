import StartEnd.Session

/-!
This module contains the arguments of the command line. They are read from left to right; an option
may be given once, its value may follow it or be attached to it, and everything behind `--` is a
file.
-/

namespace StartEnd.CommandLine

/--
What is printed about a program.
-/
inductive Emit where
  | ast
  | json
  | tokens
  | trace
  | grammar
deriving DecidableEq

def Emit.ofName? : String → Option Emit
  | "ast" => some .ast
  | "json" => some .json
  | "tokens" => some .tokens
  | "trace" => some .trace
  | "grammar" => some .grammar
  | _ => none

/--
The options of a run. The source is a file or the standard input.
-/
structure Options where
  file : Option String
  emit : Emit := .ast
  -- The file of the production table, unless it is the standard one.
  grammar : Option String
  maxDepth : Nat := defaultDepth
deriving DecidableEq

/--
What the arguments ask for.
-/
inductive Request where
  | version
  | run (o : Options)
deriving DecidableEq

/--
The arguments that have values.
-/
inductive Parameter where
  | file
  | emit
  | grammar
  | maxDepth
deriving DecidableEq

/--
The arguments that have been read so far.
-/
structure Given where
  file : Option String := none
  emit : Option Emit := none
  grammar : Option String := none
  maxDepth : Option Nat := none

/--
The number that decimal digits stand for, which may have a plus sign. It has to fit in 64 bits.
-/
def number? (text : String) : Option Nat :=
  let digits :=
    match text.toList with
    | '+' :: rest => rest
    | cs => cs
  if digits.isEmpty || !digits.all Char.isDigit then none
  else if Decimal.value digits < UInt64.size then some (Decimal.value digits)
  else none

def path? (text : String) : Option String := if text.isEmpty then none else some text

namespace Given

def add (g : Given) (p : Parameter) (value : String) : Option Given :=
  match p with
  | .file => if g.file.isSome then none else (path? value).map fun v => { g with file := v }
  | .emit => if g.emit.isSome then none else (Emit.ofName? value).map fun v => { g with emit := v }
  | .grammar =>
    if g.grammar.isSome then none else (path? value).map fun v => { g with grammar := v }
  | .maxDepth =>
    if g.maxDepth.isSome then none else (number? value).map fun v => { g with maxDepth := v }

def options (g : Given) : Options :=
  { file := g.file
    emit := g.emit.getD .ast
    grammar := g.grammar
    maxDepth := g.maxDepth.getD defaultDepth }

def addFiles (g : Given) (paths : List String) : Option Given :=
  paths.foldlM (fun g path => g.add .file path) g

end Given

/--
How an argument begins to be read.
-/
inductive Argument where
  -- What follows is files only.
  | endOfOptions
  | version
  -- An option whose value is the next argument.
  | separate (p : Parameter)
  | attached (p : Parameter) (value : String)
  | unknown
deriving DecidableEq

namespace Argument

/--
The option with a long name and the value behind the equals sign, if there is one.
-/
def ofLong (text : List Char) : Argument :=
  let name := String.ofList (text.takeWhile (· ≠ '='))
  let value := text.dropWhile (· ≠ '=')
  let option (p : Parameter) : Argument :=
    match value with
    | [] => .separate p
    | _ :: value => .attached p (String.ofList value)
  match name with
  | "emit" => option .emit
  | "grammar" => option .grammar
  | "max-depth" => option .maxDepth
  | "version" => if value.isEmpty then .version else .unknown
  | _ => .unknown

def ofShort (name : Char) (value : List Char) : Argument :=
  let option (p : Parameter) : Argument :=
    match value with
    | [] => .separate p
    | '=' :: value => .attached p (String.ofList value)
    | value => .attached p (String.ofList value)
  match name with
  | 'e' => option .emit
  | 'g' => option .grammar
  | 'V' => .version
  | _ => .unknown

def ofText (text : String) : Argument :=
  match text.toList with
  | ['-', '-'] => .endOfOptions
  | '-' :: '-' :: name => ofLong name
  | '-' :: name :: value => ofShort name value
  | _ => .attached .file text

end Argument

def isValue (text : String) : Bool :=
  match text.toList with
  | '-' :: _ :: _ => false
  | _ => true

def readFrom (g : Given) : List String → Option Request
  | [] => some (.run g.options)
  | text :: rest =>
    match Argument.ofText text with
    | .endOfOptions => (g.addFiles rest).map fun g => .run g.options
    | .version => some .version
    | .attached p value => (g.add p value).bind fun g => readFrom g rest
    | .separate p =>
      match rest with
      | [] => none
      | value :: rest =>
        if isValue value then (g.add p value).bind fun g => readFrom g rest else none
    | .unknown => none

def read (args : List String) : Option Request := readFrom {} args

end StartEnd.CommandLine
