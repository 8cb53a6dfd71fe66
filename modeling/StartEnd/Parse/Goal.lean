import StartEnd.Grammar.Table

/-!
This module contains the goals of a parse: what remains to be done, as a list of terminals to be
taken, productions to be reduced, and parts of the grammar whose form the next token decides. The
first goal answers the lookahead: it is met without it, it takes it and leaves other goals behind,
or it refuses it.

Nested constructs carry a budget, the number of levels that may still be entered.
-/

namespace StartEnd

/--
The levels of binary operators from the loosest to the tightest.
-/
inductive Level where
  | or
  | and
  | equality
  | relational
  | additive
  | multiplicative
deriving DecidableEq

namespace Level

def single : Level → Rule
  | .or => .logicalOrFromAnd
  | .and => .logicalAndFromEquality
  | .equality => .equalityFromRelational
  | .relational => .relationalFromAdditive
  | .additive => .additiveFromMultiplicative
  | .multiplicative => .multiplicativeFromFactor

def operators : Level → List (Symbol × Rule)
  | .or => [(.orKw, .logicalOrOr)]
  | .and => [(.andKw, .logicalAndAnd)]
  | .equality => [(.eq, .equalityEq), (.neq, .equalityNeq)]
  | .relational => [(.lt, .relationalLt), (.gt, .relationalGt)]
  | .additive => [(.plus, .additivePlus), (.minus, .additiveMinus)]
  | .multiplicative => [(.times, .multiplicativeTimes), (.divide, .multiplicativeDivide)]

def tighter : Level → List Level
  | .or => [.multiplicative, .additive, .relational, .equality, .and]
  | .and => [.multiplicative, .additive, .relational, .equality]
  | .equality => [.multiplicative, .additive, .relational]
  | .relational => [.multiplicative, .additive]
  | .additive => [.multiplicative]
  | .multiplicative => []

end Level

/--
What remains to be done. The members of a list that have been read are counted by natural numbers
without a bound; a signed counter of 32 bits would overflow behind 2 ^ 31 - 1 members of one list.
-/
inductive Goal where
  -- Take the given terminal. The end of the input is found, but it is never taken.
  | take (s : Symbol)
  -- Reduce by the given rule.
  | reduce (r : Rule)
  -- Complete a list of statements, of which some have been read.
  | statements (read budget : Nat)
  -- Complete a statement whose first identifier has been taken.
  | namedStatement (budget : Nat)
  -- Read what may follow the first branch of a conditional.
  | elseBranch (budget : Nat)
  -- Read a type.
  | type
  -- Read the parameters of a function.
  | params
  -- Complete a list of parameters, of which some have been read behind the first.
  | moreParams (read : Nat)
  -- Read the arguments of a call.
  | args (budget : Nat)
  -- Complete a list of arguments, of which some have been read behind the first.
  | moreArgs (read budget : Nat)
  -- Read an expression.
  | expression (budget : Nat)
  -- Read the operand of an operator of the given level.
  | operand (level : Level) (budget : Nat)
  -- Go on behind an operand of the given level.
  | operators (level : Level) (budget : Nat)
  -- Complete a factor whose identifier has been taken.
  | namedFactor (budget : Nat)
  -- Read the operand of a sign or of `not`.
  | signed (budget : Nat)

/--
How a goal answers the lookahead.
-/
inductive Answer where
  -- The goal is met by reductions alone. It would also have accepted the given terminals.
  | met (rules : List Rule) (unmet : List Symbol)
  -- The goal takes the lookahead and leaves other goals in its place.
  | shift (goals : List Goal)
  -- The goal refuses the lookahead. It would have accepted the given terminals.
  | refuse (unmet : List Symbol)
  -- The goal would enter one level too many.
  | tooDeep

namespace Answer

/--
The answer of a goal that has others to be done behind it once it has taken the lookahead.
-/
def followedBy (goals : List Goal) : Answer → Answer
  | .shift first => .shift (first ++ goals)
  | a => a

end Answer

namespace Goal

/--
What remains to be done behind a factor up to the end of the given levels, which start with the
tightest one: each level is made from what stands, and may then be continued by its operators.
-/
def climb (budget : Nat) (levels : List Level) : List Goal :=
  levels.flatMap fun level => [.reduce level.single, .operators level budget]

def restOfExpression (budget : Nat) : List Goal :=
  climb budget (Level.or.tighter ++ [.or]) ++ [.reduce .expression]

variable (g : Grammar)

/--
A factor, which is reduced at once unless it is a name or contains another expression.
-/
def answerFactor (budget : Nat) (s : Symbol) : Answer :=
  match s with
  | .identifier => .shift [.namedFactor budget]
  | .number => .shift [.reduce .factorNumber]
  | .stringLiteral => .shift [.reduce .factorStringLiteral]
  | .trueKw => .shift [.reduce .factorTrue]
  | .falseKw => .shift [.reduce .factorFalse]
  | .lParen => .shift [.expression budget, .take .rParen, .reduce .factorParens]
  | .notKw => .shift [.signed budget, .reduce .factorNot]
  | .plus => .shift [.signed budget, .reduce .factorPlus]
  | .minus => .shift [.signed budget, .reduce .factorMinus]
  | _ => .refuse (g.first .factor)

def answerExpression (budget : Nat) (s : Symbol) : Answer :=
  match budget with
  | 0 => .tooDeep
  | budget + 1 => (answerFactor g budget s).followedBy (restOfExpression budget)

/--
What remains to be done behind the parenthesis that opens a call, up to its semicolon.
-/
def restOfCall (budget : Nat) : List Goal :=
  [.args budget, .take .rParen, .take .semi, .reduce .methodCall]

/--
A list of statements ends in front of the first token that cannot begin one. Its end is closed with
the empty statement, and then the statements are joined to it, the last one first.
-/
def answerStatements (read budget : Nat) (s : Symbol) : Answer :=
  match s, budget with
  | .varKw, _ =>
    .shift [.take .identifier, .take .colon, .type, .take .semi, .reduce .declaration,
      .reduce .statementDeclaration, .statements (read + 1) budget]
  | .returnKw, _ =>
    .shift [.expression budget, .take .semi, .reduce .returnStatement, .reduce .statementReturn,
      .statements (read + 1) budget]
  | .identifier, _ => .shift [.namedStatement budget, .statements (read + 1) budget]
  | .ifKw, inner + 1 =>
    .shift [.expression inner, .take .thenKw, .statements 0 inner, .elseBranch inner,
      .take .endKw, .reduce .condition, .reduce .statementCondition,
      .statements (read + 1) budget]
  | .whileKw, inner + 1 =>
    .shift [.expression inner, .take .doKw, .statements 0 inner, .take .endKw, .reduce .loop,
      .reduce .statementLoop, .statements (read + 1) budget]
  | .functionKw, inner + 1 =>
    .shift [.take .identifier, .take .lParen, .params, .take .rParen, .take .colon, .type,
      .take .beginKw, .statements 0 inner, .take .endKw, .reduce .methodDeclaration,
      .reduce .statementMethodDeclaration, .statements (read + 1) budget]
  | .ifKw, 0 => .tooDeep
  | .whileKw, 0 => .tooDeep
  | .functionKw, 0 => .tooDeep
  | _, _ =>
    .met (.empty :: .statementEmpty :: List.replicate read .statementList) (g.first .statement)

def answer (goal : Goal) (s : Symbol) : Answer :=
  match goal with
  | .take t => if s ≠ t then .refuse [t] else if s = .eof then .met [] [] else .shift []
  | .reduce r => .met [r] []
  | .statements read budget => answerStatements g read budget s
  | .namedStatement budget =>
    match s with
    | .lParen => .shift (restOfCall budget ++ [.reduce .statementMethodCall])
    | .assign =>
      .shift [.expression budget, .take .semi, .reduce .assignment, .reduce .statementAssignment]
    | _ => .refuse [.lParen, .assign]
  | .elseBranch budget =>
    match s with
    | .elseKw => .shift [.statements 0 budget, .reduce .optionalElseElse]
    | _ => .met [.empty, .optionalElseEmpty] [.elseKw]
  | .type =>
    match s with
    | .intKw => .shift [.reduce .typeInt]
    | .floatKw => .shift [.reduce .typeFloat]
    | .stringKw => .shift [.reduce .typeString]
    | .boolKw => .shift [.reduce .typeBool]
    | _ => .refuse (g.first .type)
  | .params =>
    match s with
    | .identifier => .shift [.take .colon, .type, .reduce .param, .moreParams 0]
    | _ => .met [.empty, .optionalParamsEmpty] [.identifier]
  | .moreParams read =>
    match s with
    | .comma =>
      .shift [.take .identifier, .take .colon, .type, .reduce .param, .moreParams (read + 1)]
    | _ =>
      .met ([.empty, .paramTailEmpty] ++ List.replicate read .paramTailComma
        ++ [.paramList, .optionalParamsList]) [.comma]
  | .args budget =>
    if s ∈ g.first .expression then
      (answerExpression g budget s).followedBy [.moreArgs 0 budget]
    else .met [.empty, .optionalArgsEmpty] (g.first .expression)
  | .moreArgs read budget =>
    match s with
    | .comma => .shift [.expression budget, .moreArgs (read + 1) budget]
    | _ =>
      .met ([.empty, .argTailEmpty] ++ List.replicate read .argTailComma
        ++ [.argList, .optionalArgsList]) [.comma]
  | .expression budget => answerExpression g budget s
  | .operand level budget =>
    (answerFactor g budget s).followedBy (climb budget level.tighter)
  | .operators level budget =>
    match level.operators.lookup s with
    | some rule => .shift [.operand level budget, .reduce rule, .operators level budget]
    | none => .met [] (level.operators.map Prod.fst)
  | .namedFactor budget =>
    match s with
    | .lParen => .shift (restOfCall budget ++ [.reduce .factorMethodCall])
    | _ => .met [.factorIdentifier] [.lParen]
  | .signed budget =>
    match budget with
    | 0 => .tooDeep
    | budget + 1 => answerFactor g budget s

def program (budget : Nat) : List Goal :=
  [.take .startKw, .statements 0 budget, .take .endKw, .take .eof, .reduce .program]

end Goal

end StartEnd
