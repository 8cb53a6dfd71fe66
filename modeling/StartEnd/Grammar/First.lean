import StartEnd.Rule

/-!
This module contains the computation of the nullable symbols and of the FIRST sets of a list of
productions. Facts about symbols are collected until the productions yield no new one.
-/

namespace StartEnd

/--
A production whose symbols have been looked up.
-/
structure Production where
  rule : Rule
  lhs : Symbol
  rhs : List Symbol
deriving DecidableEq

def Production.text (p : Production) : String := productionText p.lhs p.rhs

/--
What may be known of a symbol: that it derives the empty text, or a text that begins with a
terminal.
-/
inductive Fact where
  | nullable (s : Symbol)
  | begins (s terminal : Symbol)
deriving DecidableEq

namespace Fact

/--
What is known before any production is used: a terminal begins with itself.
-/
def initial : List Fact := (Symbol.all.filter Symbol.isTerminal).map fun t => .begins t t

def firstOf (known : List Fact) (s : Symbol) : List Symbol :=
  known.filterMap fun
    | .begins s' t => if s' = s then some t else none
    | .nullable _ => none

def insert (known : List Fact) (f : Fact) : List Fact := if f ∈ known then known else f :: known

/--
Uses a production. What a symbol of the right-hand side is known to begin with counts as long as all
symbols in front of it are known to be nullable.
-/
def use (known : List Fact) (p : Production) : List Fact := go known p.rhs
where
  go (known : List Fact) : List Symbol → List Fact
    | [] => insert known (.nullable p.lhs)
    | s :: rest =>
      let known := ((firstOf known s).map (.begins p.lhs)).foldl insert known
      if .nullable s ∈ known then go known rest else known

/--
Uses each production once, on all that is known by then.
-/
def round (productions : List Production) (known : List Fact) : List Fact :=
  productions.foldl use known

/--
Uses the productions until nothing new follows, at most as many times as the bound says.
-/
def saturate (productions : List Production) : Nat → List Fact → List Fact
  | 0, known => known
  | bound + 1, known =>
    let next := round productions known
    if next.length = known.length then known else saturate productions bound next

def count : Nat := Symbol.all.length + Symbol.all.length * Symbol.all.length

def all (productions : List Production) : List Fact := saturate productions count initial

end Fact

/--
The nullable symbols of a list of productions, and the terminals that each symbol may begin with,
both in the order of their ids.
-/
structure FirstSets where
  nullable : List Symbol
  first : List (Symbol × List Symbol)

namespace FirstSets

def ofProductions (productions : List Production) : FirstSets :=
  let known := Fact.all productions
  { nullable := Symbol.all.filter fun s => .nullable s ∈ known
    first := Symbol.all.map fun s => (s, Symbol.sorted (Fact.firstOf known s)) }

def firstOf (sets : FirstSets) (s : Symbol) : List Symbol := (sets.first.lookup s).getD []

end FirstSets

end StartEnd
