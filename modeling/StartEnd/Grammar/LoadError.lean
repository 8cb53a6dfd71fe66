import StartEnd.Grammar.Table

/-!
This module contains the texts of the errors that a production table may cause.
-/

namespace StartEnd.LoadError

def tag : LoadError → String
  | .ruleCount .. => "RuleCount"
  | .undefinedRule .. => "UndefinedRule"
  | .ruleOutOfOrder .. => "RuleOutOfOrder"
  | .undefinedSymbol .. => "UndefinedSymbol"
  | .terminalLhs .. => "TerminalLhs"
  | .lhsMismatch .. => "LhsMismatch"
  | .reservedSymbol .. => "ReservedSymbol"
  | .arityMismatch .. => "ArityMismatch"
  | .rhsMismatch .. => "RhsMismatch"
  | .format => "Format"

def ruleText (r : Rule) : String := "rule " ++ toString r.id

def namesText (symbols : List Symbol) : String := " ".intercalate (symbols.map Symbol.name)

def message : LoadError → String
  | .ruleCount found =>
    "expected " ++ toString Grammar.ruleCount ++ " productions, found " ++ toString found
  | .undefinedRule id => "undefined rule id " ++ toString id
  | .ruleOutOfOrder position found =>
    "rule id " ++ toString found ++ " listed at position " ++ toString position
      ++ "; rules must appear in id order"
  | .undefinedSymbol rule id =>
    ruleText rule ++ " references undefined symbol id " ++ toString id
  | .terminalLhs rule found =>
    ruleText rule ++ ": left-hand side " ++ found.name ++ " is not a nonterminal"
  | .lhsMismatch rule found =>
    ruleText rule ++ ": left-hand side is " ++ found.name ++ ", expected " ++ rule.lhs.name
  | .reservedSymbol rule found =>
    ruleText rule ++ ": " ++ found.name ++ " cannot appear on a right-hand side"
  | .arityMismatch rule found =>
    ruleText rule ++ ": right-hand side has " ++ toString found ++ " symbols, expected "
      ++ toString rule.arity
  | .rhsMismatch rule found =>
    ruleText rule ++ ": right-hand side is `" ++ namesText found ++ "`, expected `"
      ++ namesText rule.rhs ++ "`"
  | .format => "malformed grammar table"

def tagsText (symbols : List Symbol) : String :=
  "[" ++ ", ".intercalate (symbols.map Symbol.tag) ++ "]"

def fields : LoadError → List (String × String)
  | .ruleCount found => [("expected", toString Grammar.ruleCount), ("found", toString found)]
  | .undefinedRule _ => []
  | .ruleOutOfOrder position found =>
    [("position", toString position), ("found", toString found)]
  | .undefinedSymbol rule id => [("rule", toString rule.id), ("symbol", toString id)]
  | .terminalLhs rule found => [("rule", toString rule.id), ("symbol", found.tag)]
  | .lhsMismatch rule found =>
    [("rule", toString rule.id), ("expected", rule.lhs.tag), ("found", found.tag)]
  | .reservedSymbol rule found => [("rule", toString rule.id), ("symbol", found.tag)]
  | .arityMismatch rule found =>
    [("rule", toString rule.id), ("expected", toString rule.arity), ("found", toString found)]
  | .rhsMismatch rule found =>
    [("rule", toString rule.id), ("expected", tagsText rule.rhs), ("found", tagsText found)]
  | .format => []

def report (e : LoadError) : String :=
  match e with
  | .undefinedRule id => e.tag ++ "(" ++ toString id ++ ")"
  | .format => e.tag
  | _ =>
    let fields := e.fields.map fun field => field.1 ++ ": " ++ field.2
    e.tag ++ " \x7b " ++ ", ".intercalate fields ++ " \x7d"

end StartEnd.LoadError
