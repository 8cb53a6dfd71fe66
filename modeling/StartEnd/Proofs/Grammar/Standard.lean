import StartEnd.Parse.Stack

/-!
This module contains what the grammar of the rules themselves looks up: its productions restate the
rules, and the FIRST sets that the goals of a parse consult.
-/

namespace StartEnd

namespace Grammar

@[simp]
theorem standard_rhs (r : Rule) : standard.rhs r = r.rhs := by
  cases r <;> rfl

@[simp]
theorem standard_arity (r : Rule) : standard.arity r = r.arity := by
  simp [arity, Rule.arity]

/--
The terminals that an expression may begin with, which are those of a factor.
-/
def expressionStarts : List Symbol :=
  [.falseKw, .identifier, .lParen, .minus, .notKw, .number, .plus, .stringLiteral, .trueKw]

def statementStarts : List Symbol := [.functionKw, .identifier, .ifKw, .returnKw, .varKw, .whileKw]

def typeStarts : List Symbol := [.boolKw, .floatKw, .intKw, .stringKw]

-- The FIRST sets are computed once for all four symbols.
theorem standard_first :
    standard.first .factor = expressionStarts
      ∧ standard.first .expression = expressionStarts
      ∧ standard.first .statement = statementStarts
      ∧ standard.first .type = typeStarts := by
  decide +kernel

end Grammar

end StartEnd
