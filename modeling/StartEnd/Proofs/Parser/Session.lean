import StartEnd.Parser
import StartEnd.Proofs.Parse.Moves
import StartEnd.Proofs.Trace.Log

/-!
This module contains the proof that a parser does what its session says. Whatever it has been left
with, it makes the moves of the finished parse of its tokens one after the other, offers the steps of
that parse to its log, and hands over the outcome.
-/

namespace StartEnd

theorem StepLog.Keeps.push_of_truncated {log : StepLog} {offered : List TraceStep}
    (h : log.Keeps offered) (htruncated : log.truncated = true) (step : TraceStep) :
    (log.push step).2 = log := by
  have hsize : log.limit ≤ log.steps.size := by
    have hlimit := h.truncated_iff.mp htruncated
    rw [h.size_eq]
    omega
  rw [StepLog.push, if_pos hsize, ← htruncated]

/--
Offers steps to the log of a session.
-/
def Session.offer (s : Session) (steps : List TraceStep) : Session :=
  { s with log := s.log.map fun log => log.pushAll steps }

theorem Session.offer_append (s : Session) (first rest : List TraceStep) :
    s.offer (first ++ rest) = (s.offer first).offer rest := by
  simp [offer, StepLog.pushAll, Function.comp_def]

namespace Parser

/--
A parser in the middle of a parse, which has not reported anything and whose log has been cleared in
front of the steps that it has been offered.
-/
structure Going (g : Grammar) (maxDepth : Nat) (p : Parser) : Prop where
  grammar : p.grammar = g
  maxDepth : p.maxDepth = maxDepth
  pending : p.reporter.pending = []
  log : ∀ log ∈ p.log, ∃ offered, log.Keeps offered

/--
A parser goes on like the given parse, which starts with the stack of the parser, and yields the
given result.
-/
structure Finishes (p : Parser) (parse : Parse) (result : Option Program × Parser) : Prop where
  session : result.2.toSession = p.toSession.offer parse.steps
  outcome : parse.outcome = match result.1 with
    | some program => .ok program
    | none => .error result.2.reporter.pending

variable {g : Grammar} {maxDepth : Nat} {p : Parser}

theorem Going.addStep_toSession (h : p.Going g maxDepth) (step : TraceStep) :
    (p.addStep step).toSession = p.toSession.offer [step] := by
  have hlog : (p.addStep step).log = p.log.map fun log => (log.push step).2 := by
    apply Option.map_congr
    intro log hlog
    obtain ⟨offered, hoffered⟩ := h.log log hlog
    split
    · next htruncated => exact (hoffered.push_of_truncated htruncated step).symm
    · rfl
  show { p.toSession with log := (p.addStep step).log } = _
  rw [hlog]
  rfl

theorem Going.addStep (h : p.Going g maxDepth) (step : TraceStep) :
    (p.addStep step).Going g maxDepth where
  grammar := h.grammar
  maxDepth := h.maxDepth
  pending := h.pending
  log := by
    intro log hlog
    obtain ⟨old, hold, rfl⟩ := Option.map_eq_some_iff.mp hlog
    obtain ⟨offered, hoffered⟩ := h.log old hold
    split
    · exact ⟨offered, hoffered⟩
    · exact ⟨offered ++ [step], hoffered.push step⟩

theorem Going.of_session_eq {q : Parser} (h : p.Going g maxDepth)
    (hsession : q.toSession = p.toSession) (hreporter : q.reporter = p.reporter) :
    q.Going g maxDepth where
  grammar := by rw [hsession, h.grammar]
  maxDepth := by rw [hsession, h.maxDepth]
  pending := by rw [hreporter, h.pending]
  log := by
    rw [hsession]
    exact h.log

theorem Finishes.of_session_eq {q : Parser} {parse : Parse} {result : Option Program × Parser}
    (h : q.Finishes parse result) (hsession : q.toSession = p.toSession) :
    p.Finishes parse result where
  session := by rw [h.session, hsession]
  outcome := h.outcome

theorem Going.halt (h : p.Going g maxDepth) (d : Diagnostic) :
    p.Finishes ⟨[], p.stack, .halt d⟩ (none, p.halt d) where
  session := h.addStep_toSession (Parse.stepOfHalt d p.stack)
  outcome := by
    show Except.error [d] = .error (p.reporter.pending ++ [d])
    rw [h.pending, List.nil_append]

theorem Going.accept (h : p.Going g maxDepth) (t : Token) :
    p.Finishes ⟨[], p.stack, .accept t.location⟩ (p.accept t) := by
  let step : TraceStep := ⟨.accept, p.stack.symbols, t.location⟩
  let rest : Parser := { p.addStep step with stack := p.stack.tail }
  have hsession : rest.toSession = p.toSession.offer [step] := h.addStep_toSession step
  have hrest : rest.Going g maxDepth := (h.addStep step).of_session_eq rfl rfl
  unfold Parser.accept
  cases hresult : Parse.result t.location p.stack with
  | ok program =>
    refine ⟨?_, ?_⟩
    · simpa [Parse.steps, Parse.lastSteps, hresult] using hsession
    · simp [Parse.outcome, hresult, Except.mapError]
  | error d =>
    obtain ⟨hhalt, houtcome⟩ := hrest.halt d
    refine ⟨?_, ?_⟩
    · rw [hsession, ← Session.offer_append] at hhalt
      simpa [Parse.steps, Parse.lastSteps, hresult] using hhalt
    · simpa [Parse.outcome, hresult, Except.mapError] using houtcome

/--
A parser that has made a move goes on like a parse that begins with the move.
-/
theorem Finishes.cons {q : Parser} {ending : Ending} {move : Move} {moves : List Move}
    {next : Stack} {result : Option Program × Parser} (happly : p.stack.apply g move = .ok next)
    (hq : q.toSession = p.toSession.offer [Parse.stepOfMove move next])
    (h : q.Finishes (.replay g ending next moves) result) :
    p.Finishes (.replay g ending p.stack (move :: moves)) result := by
  rw [Parse.replay, happly]
  refine ⟨?_, h.outcome⟩
  rw [h.session, hq, ← Session.offer_append]
  rfl

/--
What becomes of a parser by reductions, and how a parse that begins with them goes on.
-/
theorem Going.reduceAll (h : p.Going g maxDepth) (t : Token) (rules : List Rule) (ending : Ending)
    (more : List Move) :
    let parse := Parse.replay g ending p.stack (rules.map (.reduce · t.location) ++ more)
    match p.reduceAll t rules with
    | .error q => p.Finishes parse (none, q)
    | .ok q => q.Going g maxDepth ∧ q.expected = p.expected
      ∧ ∀ result, q.Finishes (.replay g ending q.stack more) result → p.Finishes parse result := by
  induction rules generalizing p with
  | nil => exact ⟨h, rfl, fun _ => id⟩
  | cons r rules ih =>
    unfold Parser.reduceAll
    rw [h.grammar]
    cases happly : p.stack.apply g (.reduce r t.location) with
    | error d =>
      have hhalt := h.halt d
      simpa [Parse.replay, happly] using hhalt
    | ok stack =>
      let step := Parse.stepOfMove (.reduce r t.location) stack
      have hstack : Going g maxDepth { p with stack } := h.of_session_eq rfl rfl
      have hq := hstack.addStep_toSession step
      have hrules := ih (hstack.addStep step)
      simp only at hrules ⊢
      split
      · next hreduce =>
        rw [hreduce] at hrules
        exact hrules.cons happly hq
      · next hreduce =>
        rw [hreduce] at hrules
        obtain ⟨hgoing, hexpected, hfinishes⟩ := hrules
        exact ⟨hgoing, hexpected, fun result hresult => (hfinishes result hresult).cons happly hq⟩

theorem Going.shift (h : p.Going g maxDepth) (t : Token) : (p.shift t).Going g maxDepth := by
  have hstack : Going g maxDepth
      { p with position := p.position + 1, expected := [], stack := p.stack.shift t } :=
    h.of_session_eq rfl rfl
  exact hstack.addStep _

theorem Going.shift_toSession (h : p.Going g maxDepth) (t : Token) :
    (p.shift t).toSession = p.toSession.offer [Parse.stepOfMove (.shift t) (p.stack.shift t)] := by
  have hstack : Going g maxDepth
      { p with position := p.position + 1, expected := [], stack := p.stack.shift t } :=
    h.of_session_eq rfl rfl
  exact hstack.addStep_toSession _

theorem Going.refuse (h : p.Going g maxDepth) (t : Token) :
    p.Finishes ⟨[], p.stack, .halt (.unexpected t p.expected)⟩ (none, p.refuse t) := by
  have hforgotten : Going g maxDepth { p with expected := [] } := h.of_session_eq rfl rfl
  exact (hforgotten.halt (.unexpected t p.expected)).of_session_eq rfl

end Parser

/--
What a run does for which the goals have the given verdict in front of a token, given what it does
behind the token.
-/
def Verdict.run (maxDepth : Nat) (t : Token) (behind : List Goal → Run) : Verdict → Run
  | .shift goals => ⟨.shift t :: (behind goals).moves, (behind goals).ending⟩
  | .refuse expected => ⟨[], .halt (.unexpected t expected)⟩
  | .tooDeep => ⟨[], .halt (.tooDeep maxDepth t)⟩
  | .accept => ⟨[], .accept t.location⟩

namespace Run

/--
The run of goals that have been settled in front of a token.
-/
def ofSettled (maxDepth : Nat) (t : Token) (behind : List Goal → Run)
    (settled : List Rule × Verdict) : Run :=
  let rest := settled.2.run maxDepth t behind
  ⟨settled.1.map (.reduce · t.location) ++ rest.moves, rest.ending⟩

variable {g : Grammar}

theorem ofGoals_cons {t : Token} (clean : t.fault? = none) (maxDepth : Nat) (goals : List Goal)
    (last : Location) (ts : List Token) :
    ofGoals g maxDepth goals last (t :: ts)
      =
    ofSettled maxDepth t (ofGoals g maxDepth · t.location ts) (settle g t.symbol goals []) := by
  generalize hv : (settle g t.symbol goals []).2 = v
  cases v <;> simp [ofGoals, meet, ofSettled, Verdict.run, clean, hv]

theorem ofGoals_nil (maxDepth : Nat) (goals : List Goal) (last : Location)
    (behind : List Goal → Run) :
    ofGoals g maxDepth goals last []
      =
    ofSettled maxDepth (.eof last) behind (settle g .eof goals []) := by
  have clean : (Token.eof last).fault? = none := rfl
  have hsymbol : (Token.eof last).symbol = .eof := rfl
  generalize hv : (settle g .eof goals []).2 = v
  cases v with
  | shift next => exact absurd rfl (ne_eof_of_shift hv)
  | _ => simp [ofGoals, meet, ofSettled, Verdict.run, clean, hsymbol, hv]

end Run

namespace Parser

variable {g : Grammar} {maxDepth : Nat} {p : Parser}

/--
A parser settles goals as its run does, if it goes on behind the token as the run does.
-/
theorem Going.settle (h : p.Going g maxDepth) (t : Token) (goals : List Goal)
    (behind : List Goal → Run) (goOn : List Goal → Parser → Option Program × Parser)
    (hbehind : ∀ next (q : Parser),
      (Run.settle g t.symbol goals p.expected).2 = .shift next → q.Going g maxDepth →
      q.expected = [] → q.Finishes (.replay g (behind next).ending q.stack (behind next).moves)
        (goOn next q)) :
    let run := Run.ofSettled maxDepth t behind (Run.settle g t.symbol goals p.expected)
    p.Finishes (.replay g run.ending p.stack run.moves) (conclude t goOn (p.settle t goals)) := by
  induction goals generalizing p with
  | nil => exact h.accept t
  | cons goal goals ih =>
    unfold Run.settle Parser.settle
    rw [h.grammar]
    unfold Run.settle at hbehind
    cases hanswer : goal.answer g t.symbol with
    | met rules unmet =>
      simp only [hanswer] at hbehind ⊢
      have hexpecting : (p.expecting unmet).Going g maxDepth := h.of_session_eq rfl rfl
      let settled := Run.settle g t.symbol goals (p.expected ++ unmet)
      let run := Run.ofSettled maxDepth t behind settled
      have hreduced := hexpecting.reduceAll t rules run.ending run.moves
      have hrun : Run.ofSettled maxDepth t behind (rules ++ settled.1, settled.2)
          = ⟨rules.map (.reduce · t.location) ++ run.moves, run.ending⟩ := by
        simp [run, Run.ofSettled]
      -- The reductions come first, on the stack as it is, and then the other goals are settled.
      show p.Finishes (.replay g (Run.ofSettled maxDepth t behind _).ending p.stack _) _
      rw [hrun]
      cases hall : (p.expecting unmet).reduceAll t rules with
      | error q =>
        rw [hall] at hreduced
        exact hreduced.of_session_eq rfl
      | ok q =>
        rw [hall] at hreduced
        obtain ⟨hgoing, hexpected, hfinishes⟩ := hreduced
        have hq := ih hgoing
        rw [hexpected] at hq
        exact (hfinishes _ (hq hbehind)).of_session_eq rfl
    | shift first =>
      simp only [hanswer] at hbehind ⊢
      have hrest := hbehind _ (p.shift t) rfl (h.shift t) rfl
      exact hrest.cons rfl (h.shift_toSession t)
    | refuse unmet =>
      have hexpecting : (p.expecting unmet).Going g maxDepth := h.of_session_eq rfl rfl
      exact (hexpecting.refuse t).of_session_eq rfl
    | tooDeep =>
      rw [h.maxDepth]
      exact h.halt _

theorem Going.run (h : p.Going g maxDepth) (hexpected : p.expected = []) (goals : List Goal)
    (last : Location) (ts : List Token) :
    let run := Run.ofGoals g maxDepth goals last ts
    p.Finishes (.replay g run.ending p.stack run.moves) (Parser.run goals last ts p) := by
  induction ts generalizing p goals last with
  | nil =>
    -- No goal takes the end of the input, so that it does not matter what would be done behind it.
    let behind (_ : List Goal) : Run := ⟨[], .accept last⟩
    have hsettle := h.settle (.eof last) goals behind (fun _ p => (none, p))
      (fun _ _ hnext => absurd rfl (Run.ne_eof_of_shift hnext))
    rw [Parser.run, Run.ofGoals_nil maxDepth goals last behind]
    rwa [hexpected] at hsettle
  | cons t ts ih =>
    rw [Parser.run, meet]
    cases hfault : t.fault? with
    | some complaint =>
      rw [Run.ofGoals_badToken maxDepth hfault]
      exact h.halt _
    | none =>
      have hsettle := h.settle t goals (Run.ofGoals g maxDepth · t.location ts)
        (fun goals p => Parser.run goals t.location ts p)
        (fun next _ _ hq hnone => ih hq hnone next t.location)
      rw [Run.ofGoals_cons hfault]
      rwa [hexpected] at hsettle

theorem going_reset (p : Parser) : p.reset.Going p.grammar p.maxDepth where
  grammar := rfl
  maxDepth := rfl
  pending := rfl
  log := by
    intro log hlog
    obtain ⟨old, -, rfl⟩ := Option.map_eq_some_iff.mp hlog
    exact ⟨[], old.keeps_clear⟩

theorem Finishes.deliver {parse : Parse} {result : Option Program × Parser}
    (h : p.Finishes parse result) :
    (deliver result).1 = parse.outcome
      ∧ (deliver result).2.toSession = p.toSession.offer parse.steps := by
  obtain ⟨_ | program, q⟩ := result
  · exact ⟨h.outcome.symm, h.session⟩
  · exact ⟨h.outcome.symm, h.session⟩

/--
A parser yields what its session yields and leaves the session that its session leaves, whatever it
has been left with.
-/
theorem parse_toSession (p : Parser) :
    p.parse.1 = p.toSession.parse.1 ∧ p.parse.2.toSession = p.toSession.parse.2 := by
  let parse := Parse.ofTokens p.grammar p.maxDepth p.tokens
  have h : p.reset.Finishes parse (run (Goal.program p.maxDepth) .start p.tokens p.reset) :=
    p.going_reset.run rfl (Goal.program p.maxDepth) .start p.tokens
  obtain ⟨houtcome, hsession⟩ := h.deliver
  have hlog : (p.log.map StepLog.clear).map (fun log => log.pushAll parse.steps)
      = p.log.map fun log => log.clear.pushAll parse.steps := Option.map_map ..
  exact ⟨houtcome, hsession.trans (congrArg (fun log => { p.toSession with log }) hlog)⟩

/--
A parser that offers its steps to a log one by one, and no more once the log has refused one, yields
the same outcome as one without a log, and leaves the log with the first steps of the parse. The log
has refused a step if and only if they are not all.
-/
theorem parse_recorded (p : Parser) (log : StepLog) :
    let unlogged : Parser := { p with log := none }
    let steps := p.finished.steps
    (p.withLog log).parse.1 = unlogged.parse.1
      ∧ ∃ recorded : StepLog, (p.withLog log).parse.2.toSession = p.toSession.withLog recorded
        ∧ recorded.limit = log.limit ∧ recorded.steps.toList = steps.take log.limit
        ∧ (recorded.truncated = true ↔ log.limit < steps.length) := by
  intro unlogged steps
  obtain ⟨houtcome, hsession⟩ := (p.withLog log).parse_toSession
  obtain ⟨hunlogged, -⟩ := unlogged.parse_toSession
  exact ⟨houtcome.trans hunlogged.symm, log.clear.pushAll steps, hsession, log.pushAll_clear steps⟩

end Parser

end StartEnd
