import StartEnd.Proofs.Program.Unlocated

/-!
This module contains the proof that a parse never looks at the places of its tokens: it makes the same
moves on tokens without places, and it ends in the same way, up to the places in its outcome.
-/

namespace StartEnd

def Node.unlocated : Node → Node
  | .token t => .token t.unlocated
  | .absent => .absent
  | .program p => .program p.unlocated
  | .statements list => .statements (Stmt.unlocatedBlock list)
  | .stmt s => .stmt s.unlocated
  | .call c => .call c.unlocated
  | .type t _ => .type t .start
  | .params list => .params (list.map Param.unlocated)
  | .param p => .param p.unlocated
  | .args list => .args (Expr.unlocatedList list)
  | .expr e => .expr e.unlocated

namespace Shape

def unlocated : (s : Shape) → s.Content → s.Content
  | .token, t => t.unlocated
  | .name, (n, _) => (n, .start)
  | .number, (v, _) => (v, .start)
  | .text, (v, _) => (v, .start)
  | .expr, e => e.unlocated
  | .stmt, s => s.unlocated
  | .stmtOrAbsent, s => s.map Stmt.unlocated
  | .statements, list => Stmt.unlocatedBlock list
  | .elseBranch, branch => Stmt.unlocatedElse branch
  | .type, t => t
  | .call, c => c.unlocated
  | .param, p => p.unlocated
  | .params, list => list.map Param.unlocated
  | .args, list => Expr.unlocatedList list
  | .absent, _ => ()

def unlocatedAll : (shapes : List Shape) → Contents shapes → Contents shapes
  | [], _ => ()
  | s :: shapes, (content, contents) => (s.unlocated content, unlocatedAll shapes contents)

theorem read?_unlocated (s : Shape) (n : Node) :
    s.read? n.unlocated = (s.read? n).map s.unlocated := by
  cases s <;> cases n <;> try rfl
  case name.token t | number.token t | text.token t =>
    obtain ⟨symbol, value, lexeme, location⟩ := t
    cases value with
    | none => rfl
    | some value => cases value <;> rfl

theorem missing_unlocated (s : Shape) (n : Node) : s.missing n.unlocated = s.missing n := by
  cases s <;> cases n <;> rfl

end Shape

theorem Node.kindName_unlocated (n : Node) : n.unlocated.kindName = n.kindName := by
  cases n <;> rfl

namespace Rule

theorem readChildren_unlocated (r : Rule) (shapes : List Shape) (position : Nat) (nodes : List Node) :
    r.readChildren shapes position (nodes.map Node.unlocated)
      =
    (r.readChildren shapes position nodes).map (Shape.unlocatedAll shapes) := by
  induction shapes generalizing position nodes with
  | nil => rfl
  | cons s shapes ih =>
    cases nodes with
    | nil => rfl
    | cons n nodes =>
      simp only [List.map_cons, readChildren, s.read?_unlocated, s.missing_unlocated,
        n.kindName_unlocated, ih]
      cases s.read? n with
      | none => rfl
      | some content => cases r.readChildren shapes (position + 1) nodes <;> rfl

theorem value_unlocated (r : Rule) (contents : Shape.Contents r.shapes) :
    r.value (Shape.unlocatedAll r.shapes contents) = (r.value contents).unlocated := by
  cases r
  case statementList =>
    obtain ⟨head, tail, _⟩ := contents
    cases head <;> rfl
  all_goals rfl

theorem reduce_unlocated (r : Rule) (nodes : List Node) :
    r.reduce (nodes.map Node.unlocated) = (r.reduce nodes).map Node.unlocated := by
  unfold reduce
  rw [List.length_map, readChildren_unlocated]
  split
  · cases r.readChildren r.shapes 0 nodes with
    | error e => rfl
    | ok contents => exact congrArg Except.ok (r.value_unlocated contents)
  · rfl

end Rule

def Entry.unlocated (e : Entry) : Entry := ⟨e.symbol, e.node.unlocated, .start⟩

def Move.unlocated : Move → Move
  | .shift t => .shift t.unlocated
  | .reduce r _ => .reduce r .start

def Ending.unlocated : Ending → Ending
  | .accept _ => .accept .start
  | .halt d => .halt d.unlocated

def Run.unlocated (run : Run) : Run := ⟨run.moves.map Move.unlocated, run.ending.unlocated⟩

namespace Run

theorem meet_unlocated (g : Grammar) (maxDepth : Nat) (goals : List Goal) (t : Token) :
    meet g maxDepth goals t.unlocated
      =
    (meet g maxDepth goals t).map (List.map Move.unlocated) (Sum.map id Ending.unlocated) := by
  unfold meet
  rw [show t.unlocated.fault? = t.fault? from rfl]
  cases t.fault? with
  | some complaint => rfl
  | none =>
    have hmoves (rules : List Rule) : rules.map (Move.reduce · t.unlocated.location)
        = (rules.map (Move.reduce · t.location)).map Move.unlocated := by
      rw [List.map_map]
      rfl
    simp only [hmoves]
    rw [show t.unlocated.symbol = t.symbol from rfl]
    cases (settle g t.symbol goals []).2 <;> rfl

theorem ofGoals_unlocated (g : Grammar) (maxDepth : Nat) (goals : List Goal) (last : Location)
    (tokens : List Token) :
    ofGoals g maxDepth goals .start (tokens.map Token.unlocated)
      =
    (ofGoals g maxDepth goals last tokens).unlocated := by
  induction tokens generalizing goals last with
  | nil =>
    have h := meet_unlocated g maxDepth goals (.eof last)
    rw [show (Token.eof last).unlocated = .eof .start from rfl] at h
    rw [List.map_nil, ofGoals, ofGoals, h]
    obtain ⟨moves, goals | ending⟩ := meet g maxDepth goals (.eof last) <;> rfl
  | cons t ts ih =>
    rw [List.map_cons, ofGoals, ofGoals, meet_unlocated]
    obtain ⟨moves, goals | ending⟩ := meet g maxDepth goals t
    · simp only [Prod.map, Sum.map_inl, id_eq]
      rw [show t.unlocated.location = .start from rfl, ih goals t.location]
      simp [unlocated, Move.unlocated]
    · rfl

end Run

namespace Stack

def unlocated (stack : Stack) : Stack := stack.map Entry.unlocated

theorem reduce_unlocated (g : Grammar) (stack : Stack) (r : Rule) (lookahead : Location) :
    stack.unlocated.reduce g r .start = (stack.reduce g r lookahead).map unlocated := by
  have hchildren : (stack.unlocated.take (g.arity r)).reverse
      = ((stack.take (g.arity r)).reverse).map Entry.unlocated := by
    rw [unlocated, ← List.map_take, List.map_reverse]
  have hlocation (entries : List Entry) :
      ((entries.map Entry.unlocated).head?.map Entry.location).getD .start = .start := by
    cases entries <;> rfl
  unfold reduce
  simp only [hchildren, hlocation, List.length_map, List.map_map]
  rw [show Entry.symbol ∘ Entry.unlocated = Entry.symbol from rfl,
    show Entry.node ∘ Entry.unlocated = Node.unlocated ∘ Entry.node from rfl, ← List.map_map,
    r.reduce_unlocated]
  split
  · rfl
  · split
    · rfl
    · cases r.reduce ((stack.take (g.arity r)).reverse.map Entry.node) with
      | error e => rfl
      | ok node => simp [Except.map, unlocated, Entry.unlocated]

theorem apply_unlocated (g : Grammar) (stack : Stack) (move : Move) :
    stack.unlocated.apply g move.unlocated
      =
    ((stack.apply g move).map unlocated).mapError Diagnostic.unlocated := by
  cases move with
  | shift t => rfl
  | reduce r lookahead =>
    rw [Move.unlocated, apply, apply, stack.reduce_unlocated g r lookahead]
    cases stack.reduce g r lookahead <;> rfl

end Stack

namespace Parse

theorem result_unlocated (lookahead : Location) (stack : Stack) :
    result .start stack.unlocated
      =
    ((result lookahead stack).map Program.unlocated).mapError Diagnostic.unlocated := by
  match stack with
  | [] => rfl
  | [⟨s, node, location⟩] => cases node <;> rfl
  | ⟨s, node, location⟩ :: e :: rest => cases node <;> rfl

theorem outcome_replay_unlocated (g : Grammar) (ending : Ending) (stack : Stack)
    (moves : List Move) :
    (replay g ending.unlocated stack.unlocated (moves.map Move.unlocated)).outcome
      =
    (replay g ending stack moves).outcome.unlocated := by
  induction moves generalizing stack with
  | nil =>
    cases ending with
    | halt d => rfl
    | accept lookahead =>
      show (result .start stack.unlocated).mapError _ = _
      rw [result_unlocated lookahead stack]
      show _ = Outcome.unlocated ((result lookahead stack).mapError _)
      cases result lookahead stack <;> rfl
  | cons move moves ih =>
    rw [List.map_cons, replay, replay, stack.apply_unlocated]
    cases stack.apply g move with
    | error d => rfl
    | ok next => exact ih next

theorem outcome_ofTokens_unlocated (g : Grammar) (maxDepth : Nat) (tokens : List Token) :
    (ofTokens g maxDepth (tokens.map Token.unlocated)).outcome
      =
    (ofTokens g maxDepth tokens).outcome.unlocated := by
  unfold ofTokens Run.ofTokens
  rw [Run.ofGoals_unlocated g maxDepth _ .start tokens]
  exact outcome_replay_unlocated g _ [] _

end Parse

namespace Session

def unlocated (s : Session) : Session := { s with tokens := s.tokens.map Token.unlocated }

theorem ofTokens_unlocated (g : Grammar) (tokens : List Token) :
    ofTokens g (tokens.map Token.unlocated) = (ofTokens g tokens).unlocated := by
  have hcompleted :
      completed (tokens.map Token.unlocated) = (completed tokens).map Token.unlocated := by
    unfold completed
    rw [List.getLast?_map]
    cases tokens.getLast? with
    | none => rfl
    | some last =>
      rw [apply_ite (List.map Token.unlocated), List.map_append]
      rfl
  rw [ofTokens, hcompleted]
  rfl

/--
The outcome of a parse depends on the places of the tokens only in the places that it contains.
-/
theorem parse_unlocated (s : Session) : s.unlocated.parse.1 = s.parse.1.unlocated :=
  Parse.outcome_ofTokens_unlocated s.grammar s.maxDepth s.tokens

end Session

end StartEnd
