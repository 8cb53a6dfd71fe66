import StartEnd.Grammar.First

/-!
This module contains stored production tables and the grammar that is made from one. The parse
engine relies on the shape of every rule, so a table may only restate the rules; loading finds the
first record that does not.
-/

namespace StartEnd

/--
The stored form of a production, which has the ids of its rule and symbols.
-/
structure Record where
  rule : UInt16
  lhs : UInt16
  rhs : List UInt16
deriving DecidableEq

namespace Record

def ofProduction (p : Production) : Record :=
  ⟨.ofNat p.rule.id, .ofNat p.lhs.id, p.rhs.map fun s => .ofNat s.id⟩

def standard : List Record := Rule.all.map fun r => .ofProduction ⟨r, r.lhs, r.rhs⟩

end Record

/--
Why a production table is refused. The first four kinds of mismatch are found before the symbols of
a right-hand side are looked at.
-/
inductive LoadError where
  | ruleCount (found : Nat)
  | undefinedRule (id : UInt16)
  | ruleOutOfOrder (position : Nat) (found : UInt16)
  | undefinedSymbol (rule : Rule) (id : UInt16)
  | terminalLhs (rule : Rule) (found : Symbol)
  | lhsMismatch (rule : Rule) (found : Symbol)
  | reservedSymbol (rule : Rule) (found : Symbol)
  | arityMismatch (rule : Rule) (found : Nat)
  | rhsMismatch (rule : Rule) (found : List Symbol)
  | format
deriving DecidableEq

/--
A grammar whose productions restate the rules, together with its FIRST sets.
-/
structure Grammar where
  productions : List Production
  sets : FirstSets

namespace Grammar

def ruleCount : Nat := Rule.all.length

def isReserved (s : Symbol) : Bool := s = .eof || s = .error || s = .whitespace

def resolve (rule : Rule) : List UInt16 → Except LoadError (List Symbol)
  | [] => .ok []
  | id :: ids =>
    match Symbol.ofId? id.toNat with
    | none => .error (.undefinedSymbol rule id)
    | some s =>
      match resolve rule ids with
      | .error e => .error e
      | .ok symbols => .ok (s :: symbols)

def check (position : Nat) (record : Record) : Except LoadError Production :=
  match Rule.ofId? record.rule.toNat with
  | none => .error (.undefinedRule record.rule)
  | some rule =>
    if rule.id ≠ position then .error (.ruleOutOfOrder position record.rule)
    else
      match Symbol.ofId? record.lhs.toNat with
      | none => .error (.undefinedSymbol rule record.lhs)
      | some lhs =>
        if !lhs.isNonterminal then .error (.terminalLhs rule lhs)
        else if lhs ≠ rule.lhs then .error (.lhsMismatch rule lhs)
        else
          match resolve rule record.rhs with
          | .error e => .error e
          | .ok rhs =>
            match rhs.find? isReserved with
            | some s => .error (.reservedSymbol rule s)
            | none =>
              if rhs.length ≠ rule.arity then .error (.arityMismatch rule rhs.length)
              else if rhs ≠ rule.rhs then .error (.rhsMismatch rule rhs)
              else .ok ⟨rule, lhs, rhs⟩

def checkAll : Nat → List Record → Except LoadError (List Production)
  | _, [] => .ok []
  | position, record :: records =>
    match check position record with
    | .error e => .error e
    | .ok p =>
      match checkAll (position + 1) records with
      | .error e => .error e
      | .ok ps => .ok (p :: ps)

def ofProductions (productions : List Production) : Grammar :=
  ⟨productions, .ofProductions productions⟩

def ofRecords (records : List Record) : Except LoadError Grammar :=
  if records.length ≠ ruleCount then .error (.ruleCount records.length)
  else (checkAll 0 records).map ofProductions

def toRecords (g : Grammar) : List Record := g.productions.map .ofProduction

def standard : Grammar := ofProductions (Rule.all.map fun r => ⟨r, r.lhs, r.rhs⟩)

def production (g : Grammar) (r : Rule) : Production :=
  (g.productions.find? fun p => p.rule = r).getD ⟨r, r.lhs, r.rhs⟩

def lhs (g : Grammar) (r : Rule) : Symbol := (g.production r).lhs

def rhs (g : Grammar) (r : Rule) : List Symbol := (g.production r).rhs

def arity (g : Grammar) (r : Rule) : Nat := (g.rhs r).length

def rulesFor (g : Grammar) (s : Symbol) : List Rule :=
  (g.productions.filter fun p => p.lhs = s).map Production.rule

def first (g : Grammar) (s : Symbol) : List Symbol := g.sets.firstOf s

def isNullable (g : Grammar) (s : Symbol) : Bool := s ∈ g.sets.nullable

end Grammar

end StartEnd
