import StartEnd.Proofs.Derivation.Level
import StartEnd.Proofs.Derivation.Reading

/-!
This module contains the words in which a program is written. Parentheses are written only where
the program would be read differently without them: around a left operand whose operator binds
looser than that of the parent, around a right operand whose operator does not bind tighter, and
around the operand of a sign or of `not` that has two operands itself. A call is written with its
semicolon, wherever it stands.
-/

namespace StartEnd

/--
What a token says, whichever its lexeme and its place are.
-/
inductive Word where
  | symbol (s : Symbol)
  | name (n : String)
  | literal (value : Literal)

namespace Word

def SpelledBy : Word → Token → Prop
  | .symbol s, t => t.symbol = s
  | .name n, t => t.symbol = .identifier ∧ t.name? = some n
  | .literal value, t => t.literal? = some value

def inParens (words : List Word) : List Word :=
  .symbol .lParen :: (words ++ [.symbol .rParen])

end Word

namespace BinOp

def symbol : BinOp → Symbol
  | .or => .orKw
  | .and => .andKw
  | .eq => .eq
  | .neq => .neq
  | .lt => .lt
  | .gt => .gt
  | .add => .plus
  | .sub => .minus
  | .mul => .times
  | .div => .divide

def level : BinOp → Level
  | .or => .or
  | .and => .and
  | .eq | .neq => .equality
  | .lt | .gt => .relational
  | .add | .sub => .additive
  | .mul | .div => .multiplicative

end BinOp

def UnOp.symbol : UnOp → Symbol
  | .not => .notKw
  | .pos => .plus
  | .neg => .minus

def TypeName.symbol : TypeName → Symbol
  | .int => .intKw
  | .float => .floatKw
  | .string => .stringKw
  | .bool => .boolKw

/--
Whether operators of a level bind looser than those of another one.
-/
def Level.looser (level other : Level) : Bool := other ∈ level.tighter

namespace Expr

/--
The level of an expression that has two operands.
-/
def level? : Expr → Option Level
  | .binary op _ _ _ => some op.level
  | _ => none

def looser (e : Expr) (parent : Level) : Bool := e.level?.any fun level => level.looser parent

def looserOrEqual (e : Expr) (parent : Level) : Bool :=
  e.level?.any fun level => level.looser parent || level = parent

mutual

def words : Expr → List Word
  | .literal value _ => [.literal value]
  | .var name _ => [.name name]
  | .binary op left right _ =>
    (if left.looser op.level then Word.inParens left.words else left.words)
      ++ .symbol op.symbol
        :: (if right.looserOrEqual op.level then Word.inParens right.words else right.words)
  | .unary op operand _ =>
    .symbol op.symbol
      :: (if operand.level?.isSome then Word.inParens operand.words else operand.words)
  | .call name args _ =>
    .name name :: .symbol .lParen :: (argsWords args ++ [.symbol .rParen, .symbol .semi])

def argsWords : List Expr → List Word
  | [] => []
  | e :: es => e.words ++ moreArgsWords es

/--
The words of the arguments behind the first one.
-/
def moreArgsWords : List Expr → List Word
  | [] => []
  | e :: es => .symbol .comma :: (e.words ++ moreArgsWords es)

end

end Expr

def Call.words (c : Call) : List Word := c.toExpr.words

namespace Param

def words (p : Param) : List Word :=
  [.name p.name, .symbol .colon, .symbol p.type.symbol]

def listWords : List Param → List Word
  | [] => []
  | p :: ps => p.words ++ ps.flatMap fun p => .symbol .comma :: p.words

end Param

namespace Stmt

mutual

def words : Stmt → List Word
  | .varDecl name type _ =>
    [.symbol .varKw, .name name, .symbol .colon, .symbol type.symbol, .symbol .semi]
  | .assign target value _ => .name target :: .symbol .assign :: (value.words ++ [.symbol .semi])
  | .cond condition thenBranch elseBranch _ =>
    .symbol .ifKw :: (condition.words ++ .symbol .thenKw
      :: (blockWords thenBranch ++ (elseWords elseBranch ++ [.symbol .endKw])))
  | .loop condition body _ =>
    .symbol .whileKw :: (condition.words ++ .symbol .doKw
      :: (blockWords body ++ [.symbol .endKw]))
  | .funcDecl name params returnType body _ =>
    .symbol .functionKw :: .name name :: .symbol .lParen :: (Param.listWords params
      ++ .symbol .rParen :: .symbol .colon :: .symbol returnType.symbol :: .symbol .beginKw
      :: (blockWords body ++ [.symbol .endKw]))
  | .call c => c.words
  | .ret value _ => .symbol .returnKw :: (value.words ++ [.symbol .semi])

def blockWords : List Stmt → List Word
  | [] => []
  | s :: ss => s.words ++ blockWords ss

def elseWords : Option (List Stmt) → List Word
  | none => []
  | some body => .symbol .elseKw :: blockWords body

end

end Stmt

def Program.words (p : Program) : List Word :=
  .symbol .startKw :: (Stmt.blockWords p.statements ++ [.symbol .endKw])

end StartEnd
