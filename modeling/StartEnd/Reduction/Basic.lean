import StartEnd.Reduction.Node
import StartEnd.Rule

/-!
This module contains the meaning of the productions: how the value of a left-hand side is made from
the values of the right-hand side. Rules of the form `X ::= Y` hand their child on, empty
productions yield an absent node, and the right-recursive list rules build a list in source order.
-/

namespace StartEnd

/--
Why a reduction fails.
-/
inductive ReductionError where
  | unknownRule (id : Nat)
  | arity (rule : Rule) (found : Nat)
  | unexpectedNode (rule : Rule) (position : Nat) (missing found : String)
deriving DecidableEq

namespace ReductionError

def message : ReductionError → String
  | .unknownRule id => "no semantic action for rule id " ++ toString id
  | .arity rule found =>
    "rule " ++ rule.text ++ " expects " ++ toString rule.arity ++ " children, got "
      ++ toString found
  | .unexpectedNode rule position missing found =>
    "rule " ++ rule.text ++ ": child " ++ toString position ++ " should be a " ++ missing
      ++ ", found a " ++ found

end ReductionError

namespace Rule

open Shape in
@[reducible]
def shapes : Rule → List Shape
  | .program => [.token, .statements, .token]
  | .statementList => [.stmtOrAbsent, .statements]
  | .statementDeclaration => [.stmt]
  | .statementAssignment => [.stmt]
  | .statementCondition => [.stmt]
  | .statementLoop => [.stmt]
  | .statementMethodDeclaration => [.stmt]
  | .statementMethodCall => [.call]
  | .statementReturn => [.stmt]
  | .statementEmpty => [.absent]
  | .declaration => [.token, .name, .token, .type, .token]
  | .typeInt => [.token]
  | .typeFloat => [.token]
  | .typeString => [.token]
  | .typeBool => [.token]
  | .assignment => [.name, .token, .expr, .token]
  | .condition => [.token, .expr, .token, .statements, .elseBranch, .token]
  | .optionalElseElse => [.token, .statements]
  | .optionalElseEmpty => [.absent]
  | .loop => [.token, .expr, .token, .statements, .token]
  | .methodDeclaration =>
    [.token, .name, .token, .params, .token, .token, .type, .token, .statements, .token]
  | .optionalParamsList => [.params]
  | .optionalParamsEmpty => [.absent]
  | .paramList => [.param, .params]
  | .paramTailComma => [.token, .param, .params]
  | .paramTailEmpty => [.absent]
  | .param => [.name, .token, .type]
  | .methodCall => [.name, .token, .args, .token, .token]
  | .optionalArgsList => [.args]
  | .optionalArgsEmpty => [.absent]
  | .argList => [.expr, .args]
  | .argTailComma => [.token, .expr, .args]
  | .argTailEmpty => [.absent]
  | .returnStatement => [.token, .expr, .token]
  | .expression => [.expr]
  | .logicalOrOr => [.expr, .token, .expr]
  | .logicalOrFromAnd => [.expr]
  | .logicalAndAnd => [.expr, .token, .expr]
  | .logicalAndFromEquality => [.expr]
  | .equalityEq => [.expr, .token, .expr]
  | .equalityNeq => [.expr, .token, .expr]
  | .equalityFromRelational => [.expr]
  | .relationalLt => [.expr, .token, .expr]
  | .relationalGt => [.expr, .token, .expr]
  | .relationalFromAdditive => [.expr]
  | .additivePlus => [.expr, .token, .expr]
  | .additiveMinus => [.expr, .token, .expr]
  | .additiveFromMultiplicative => [.expr]
  | .multiplicativeTimes => [.expr, .token, .expr]
  | .multiplicativeDivide => [.expr, .token, .expr]
  | .multiplicativeFromFactor => [.expr]
  | .factorIdentifier => [.name]
  | .factorNumber => [.number]
  | .factorStringLiteral => [.text]
  | .factorTrue => [.token]
  | .factorFalse => [.token]
  | .factorParens => [.token, .expr, .token]
  | .factorMethodCall => [.call]
  | .factorNot => [.token, .expr]
  | .factorPlus => [.token, .expr]
  | .factorMinus => [.token, .expr]
  | .empty => []

/--
The value of a rule's left-hand side. Constructs are located at their first token, and operators at
the operator token.
-/
def value : (r : Rule) → Shape.Contents r.shapes → Node
  | .program, (start, statements, _) => .program ⟨statements, start.location⟩
  | .statementList, (some head, tail, _) => .statements (head :: tail)
  | .statementList, (none, tail, _) => .statements tail
  | .statementDeclaration, (s, _) => .stmt s
  | .statementAssignment, (s, _) => .stmt s
  | .statementCondition, (s, _) => .stmt s
  | .statementLoop, (s, _) => .stmt s
  | .statementMethodDeclaration, (s, _) => .stmt s
  | .statementMethodCall, (c, _) => .stmt (.call c)
  | .statementReturn, (s, _) => .stmt s
  | .statementEmpty, _ => .absent
  | .declaration, (word, (name, _), _, type, _) => .stmt (.varDecl name type word.location)
  | .typeInt, (word, _) => .type .int word.location
  | .typeFloat, (word, _) => .type .float word.location
  | .typeString, (word, _) => .type .string word.location
  | .typeBool, (word, _) => .type .bool word.location
  | .assignment, ((target, l), _, value, _) => .stmt (.assign target value l)
  | .condition, (word, test, _, thenBranch, elseBranch, _) =>
    .stmt (.cond test thenBranch elseBranch word.location)
  | .optionalElseElse, (_, statements, _) => .statements statements
  | .optionalElseEmpty, _ => .absent
  | .loop, (word, test, _, body, _) => .stmt (.loop test body word.location)
  | .methodDeclaration, (word, (name, _), _, params, _, _, type, _, body, _) =>
    .stmt (.funcDecl name params type body word.location)
  | .optionalParamsList, (params, _) => .params params
  | .optionalParamsEmpty, _ => .absent
  | .paramList, (head, tail, _) => .params (head :: tail)
  | .paramTailComma, (_, head, tail, _) => .params (head :: tail)
  | .paramTailEmpty, _ => .absent
  | .param, ((name, l), _, type, _) => .param ⟨name, type, l⟩
  | .methodCall, ((name, l), _, args, _) => .call ⟨name, args, l⟩
  | .optionalArgsList, (args, _) => .args args
  | .optionalArgsEmpty, _ => .absent
  | .argList, (head, tail, _) => .args (head :: tail)
  | .argTailComma, (_, head, tail, _) => .args (head :: tail)
  | .argTailEmpty, _ => .absent
  | .returnStatement, (word, value, _) => .stmt (.ret value word.location)
  | .expression, (e, _) => .expr e
  | .logicalOrOr, (l, op, r, _) => binary .or l op r
  | .logicalOrFromAnd, (e, _) => .expr e
  | .logicalAndAnd, (l, op, r, _) => binary .and l op r
  | .logicalAndFromEquality, (e, _) => .expr e
  | .equalityEq, (l, op, r, _) => binary .eq l op r
  | .equalityNeq, (l, op, r, _) => binary .neq l op r
  | .equalityFromRelational, (e, _) => .expr e
  | .relationalLt, (l, op, r, _) => binary .lt l op r
  | .relationalGt, (l, op, r, _) => binary .gt l op r
  | .relationalFromAdditive, (e, _) => .expr e
  | .additivePlus, (l, op, r, _) => binary .add l op r
  | .additiveMinus, (l, op, r, _) => binary .sub l op r
  | .additiveFromMultiplicative, (e, _) => .expr e
  | .multiplicativeTimes, (l, op, r, _) => binary .mul l op r
  | .multiplicativeDivide, (l, op, r, _) => binary .div l op r
  | .multiplicativeFromFactor, (e, _) => .expr e
  | .factorIdentifier, ((name, l), _) => .expr (.var name l)
  | .factorNumber, ((value, l), _) => .expr (.literal value l)
  | .factorStringLiteral, ((value, l), _) => .expr (.literal value l)
  | .factorTrue, (word, _) => .expr (.literal (.bool true) word.location)
  | .factorFalse, (word, _) => .expr (.literal (.bool false) word.location)
  | .factorParens, (_, e, _) => .expr e
  | .factorMethodCall, (c, _) => .expr c.toExpr
  | .factorNot, (op, e, _) => .expr (.unary .not e op.location)
  | .factorPlus, (op, e, _) => .expr (.unary .pos e op.location)
  | .factorMinus, (op, e, _) => .expr (.unary .neg e op.location)
  | .empty, _ => .absent
where
  binary (op : BinOp) (left : Expr) (word : Token) (right : Expr) : Node :=
    .expr (.binary op left right word.location)

/--
Reads the children of a rule from left to right, the first of them at the given position.
-/
def readChildren (r : Rule) :
    (shapes : List Shape) → Nat → List Node → Except ReductionError (Shape.Contents shapes)
  | [], _, _ => .ok ()
  | _ :: _, position, [] => .error (.arity r position)
  | s :: shapes, position, n :: nodes =>
    match s.read? n with
    | none => .error (.unexpectedNode r position (s.missing n) n.kindName)
    | some content =>
      match readChildren r shapes (position + 1) nodes with
      | .error e => .error e
      | .ok contents => .ok (content, contents)

/--
Makes the value of a rule's left-hand side from the values of its right-hand side, the leftmost
first.
-/
def reduce (r : Rule) (children : List Node) : Except ReductionError Node :=
  if children.length = r.arity then
    (r.readChildren r.shapes 0 children).map r.value
  else
    .error (.arity r children.length)

def reduceId (id : Nat) (children : List Node) : Except ReductionError Node :=
  match ofId? id with
  | none => .error (.unknownRule id)
  | some r => r.reduce children

end Rule

end StartEnd
