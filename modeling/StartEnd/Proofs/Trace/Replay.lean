import StartEnd.Proofs.Failure
import StartEnd.Proofs.Trace.Log

/-!
This module contains the proof that the steps of a parse, as they are shown, are those of a machine
that only knows the symbols on its stack, and that the reductions among them are the derivation of
the tokens, from the bottom up.
-/

namespace StartEnd

/--
What an action makes of the symbols on a stack, whose earliest symbol stands first. A reduction
needs the right-hand side of its rule on top.
-/
def TraceAction.act? (action : TraceAction) (stack : List Symbol) : Option (List Symbol) :=
  match action with
  | .shift s _ => some (stack ++ [s])
  | .reduce r =>
    if r.rhs <:+ stack then some (stack.take (stack.length - r.arity) ++ [r.label]) else none
  | .accept => some stack
  | .halt _ => some stack

namespace TraceStep

/--
Steps replay on the symbols of a stack if each of them records the stack that its action makes.
-/
inductive Replay : List Symbol → List TraceStep → List Symbol → Prop where
  | nil (stack : List Symbol) : Replay stack [] stack
  | cons {stack last : List Symbol} {step : TraceStep} {steps : List TraceStep}
      (h : step.action.act? stack = some step.stack) (hs : Replay step.stack steps last) :
    Replay stack (step :: steps) last

/--
The token that a step shows, if it is a shift.
-/
def shift? (step : TraceStep) : Option (Symbol × String × Location) :=
  match step.action with
  | .shift s lexeme => some (s, lexeme, step.location)
  | _ => none

/--
The rule that a step reduces and the place where it is shown.
-/
def reduce? (step : TraceStep) : Option (Rule × Option Location) :=
  match step.action with
  | .reduce r => some (r, some step.location)
  | _ => none

/--
A rule of a derivation with the place of the token at which its tree begins.
-/
def located (tokens : List Token) (reduction : Rule × Nat) : Rule × Option Location :=
  (reduction.1, tokens[reduction.2]?.map Token.location)

/--
How a step shows the outcome of a parse: it accepts over a program, or it halts at a diagnostic.
-/
def Concludes (step : TraceStep) : Outcome → Prop
  | .ok _ => step.action = .accept ∧ step.stack = [.program]
  | .error ds => ∃ d, ds = [d] ∧ step.action = .halt d.kind ∧ step.location = d.location

/--
What the steps of a parse promise, of which the first tokens have been taken. They are a run of a
machine that only knows the symbols on its stack. They shift the tokens that have been taken, and
only the last one shows how the parse ended. The reductions are, from the bottom up, those of trees
over the tokens that have been taken, each shown at the token at which its tree begins. If the parse
accepts, the only tree is the derivation of the tokens.
-/
structure Faithful (tokens : List Token) (taken : Nat) (outcome : Outcome)
    (steps : List TraceStep) : Prop where
  replay : ∃ last, Replay [] steps last
  shifts : steps.filterMap shift?
    = (tokens.take taken).map fun t => (t.symbol, t.lexeme, t.location)
  ending : ∃ before last, steps = before ++ [last]
    ∧ (∀ step ∈ before, step.action ≠ .accept ∧ ∀ kind, step.action ≠ .halt kind)
    ∧ last.Concludes outcome
  reductions : ∃ trees : List Tree, (∀ T ∈ trees, T.Valid)
    ∧ trees.flatMap Tree.yield = tokens.take taken
    ∧ steps.filterMap reduce? = (Tree.postorderAll trees 0).map (located tokens)
    ∧ ∀ p, outcome = .ok p → ∃ T : Tree, trees = [T] ∧ T.Derives .program (tokens.take taken)
      ∧ Tree.postorderAll trees 0 = T.postorder 0

theorem Replay.append {stack mid last : List Symbol} {first rest : List TraceStep}
    (h : Replay stack first mid) (h' : Replay mid rest last) : Replay stack (first ++ rest) last := by
  induction h with
  | nil => exact h'
  | cons h _ ih => exact .cons h (ih h')

/--
The only step at which a parse halts is the last one, and it does if and only if it has failed.
-/
theorem Faithful.halts_iff {tokens : List Token} {taken : Nat} {outcome : Outcome}
    {steps : List TraceStep} (h : Faithful tokens taken outcome steps) {i : Nat} :
    (∃ step kind, steps[i]? = some step ∧ step.action = .halt kind)
      ↔
    i + 1 = steps.length ∧ ∃ ds, outcome = .error ds := by
  obtain ⟨before, last, rfl, hbefore, hlast⟩ := h.ending
  have hlength : (before ++ [last]).length = before.length + 1 := List.length_append
  constructor
  · rintro ⟨step, kind, hstep, haction⟩
    have hi : ¬ i < before.length := by
      intro hi
      rw [List.getElem?_append_left hi] at hstep
      exact (hbefore step (List.mem_of_getElem? hstep)).2 kind haction
    obtain ⟨hle, -⟩ := List.getElem?_eq_some_iff.mp hstep
    have hi : i = before.length := by
      omega
    rw [hi, List.getElem?_concat_length] at hstep
    obtain rfl := Option.some.inj hstep
    refine ⟨by omega, ?_⟩
    cases outcome with
    | ok p =>
      rw [hlast.1] at haction
      cases haction
    | error ds => exact ⟨ds, rfl⟩
  · rintro ⟨hi, ds, rfl⟩
    obtain rfl : i = before.length := by
      omega
    obtain ⟨d, -, haction, -⟩ := hlast
    exact ⟨last, d.kind, List.getElem?_concat_length, haction⟩

end TraceStep

/--
The rule that a move reduces.
-/
def Move.rule? : Move → Option Rule
  | .shift _ => none
  | .reduce r _ => some r

namespace Parse

variable {maxDepth : Nat} {tokens : List Token} {c d : Config} {moves : List Move} {stack : Stack}

/--
The rules that a parse has reduced.
-/
def fired (p : Parse) : List Rule := (p.history.map Prod.fst).filterMap Move.rule?

/--
The steps that show the moves of a parse.
-/
def moveSteps (p : Parse) : List TraceStep := p.history.map fun (move, stack) => stepOfMove move stack

theorem act?_stepOfMove {move : Move} {next : Stack}
    (h : stack.apply .standard move = .ok next) :
    (stepOfMove move next).action.act? stack.symbols = some next.symbols := by
  cases move with
  | shift t =>
    obtain rfl : stack.shift t = next := by simpa [Stack.apply] using h
    simp [stepOfMove, TraceAction.act?, Stack.symbols, Stack.shift]
  | reduce r lookahead =>
    cases hreduce : stack.reduce .standard r lookahead with
    | error e => simp [Stack.apply, hreduce] at h
    | ok next' =>
      obtain rfl : next' = next := by simpa [Stack.apply, hreduce] using h
      obtain ⟨hs, node, hn⟩ := Stack.reduce_eq_ok hreduce
      rw [Stack.reduce_eq hs hn] at hreduce
      obtain rfl := Except.ok.inj hreduce
      have hsymbols : stack.symbols = Stack.symbols (stack.drop r.arity) ++ r.rhs := by
        rw [← hs, Stack.symbols, Stack.symbols, List.map_reverse, ← List.reverse_append,
          ← List.map_append, List.take_append_drop]
      have hlen : stack.symbols.length - r.arity
          = (Stack.symbols (stack.drop r.arity)).length := by
        rw [hsymbols, List.length_append]
        apply Nat.add_sub_cancel ..
      simp only [stepOfMove, TraceAction.act?]
      rw [if_pos ⟨_, hsymbols.symm⟩, hlen, hsymbols, List.take_left]
      simp [Stack.symbols]

theorem replay_moveSteps (ending : Ending) (stack : Stack) (moves : List Move) :
    let p := replay .standard ending stack moves
    TraceStep.Replay stack.symbols p.moveSteps p.stack.symbols := by
  induction moves generalizing stack with
  | nil => exact .nil _
  | cons move moves ih =>
    unfold replay
    cases h : stack.apply .standard move with
    | error d => exact .nil _
    | ok next =>
      have hstack : (stepOfMove move next).stack = next.symbols := by
        cases move <;> rfl
      refine .cons ?_ ?_
      · rw [act?_stepOfMove h, hstack]
      · rw [hstack]
        apply ih next

theorem shift?_stepOfMove (move : Move) (stack : Stack) :
    (stepOfMove move stack).shift?
      =
    move.token?.map fun t => (t.symbol, t.lexeme, t.location) := by
  cases move <;> rfl

theorem shift?_moveSteps (p : Parse) :
    p.moveSteps.filterMap TraceStep.shift?
      =
    p.shifted.map fun t => (t.symbol, t.lexeme, t.location) := by
  unfold moveSteps shifted
  rw [List.filterMap_map, List.filterMap_map, List.map_filterMap]
  congr 1
  funext entry
  apply shift?_stepOfMove entry.1 entry.2

theorem moveSteps_replay_cons {g : Grammar} {move : Move} {next : Stack}
    (h : stack.apply g move = .ok next) (ending : Ending) (moves : List Move) :
    (replay g ending stack (move :: moves)).moveSteps
      =
    stepOfMove move next :: (replay g ending next moves).moveSteps := by
  simp only [replay, h, moveSteps, List.map_cons]

theorem action_of_mem_moveSteps {p : Parse} {step : TraceStep} (h : step ∈ p.moveSteps) :
    step.action ≠ .accept ∧ ∀ kind, step.action ≠ .halt kind := by
  unfold moveSteps at h
  obtain ⟨⟨move, stack⟩, -, rfl⟩ := List.mem_map.mp h
  cases move <;> simp [stepOfMove]

theorem reduce?_stepOfMove {r : Rule} {forest : Forest} {next : Stack} {lookahead : Location}
    (h : next.Shows tokens (forest.reduce r)) :
    (stepOfMove (.reduce r lookahead) next).reduce?
      =
    some (TraceStep.located tokens (r, (Forest.tokens (forest.drop r.arity)).length)) := by
  cases h with
  | cons he _ => simp [stepOfMove, TraceStep.reduce?, TraceStep.located, he.location_eq]

/--
The reductions of a parse are shown in the order in which the derivations of its trees are complete,
the earliest tree first.
-/
theorem reduce?_moveSteps (ending : Ending) (h : Steps .standard c moves d)
    (hc : c.Sound maxDepth tokens) (hs : stack.Shows tokens c.forest) :
    d.forest.reductions.map (TraceStep.located tokens)
      =
    c.forest.reductions.map (TraceStep.located tokens)
      ++ (replay .standard ending stack moves).moveSteps.filterMap TraceStep.reduce? := by
  induction h generalizing stack with
  | refl => simp [replay, moveSteps]
  | head h hrest ih =>
    have hsound := h.sound hc
    cases h with
    | reduce clean =>
      rename_i r goals refused forest t ts
      -- The trees below the new one keep their reductions, so that its own rule comes last.
      obtain ⟨next, hnext, hshows⟩ := hs.reduce hc.ensures.1 hc.tokens_eq
      have happly : stack.apply .standard (.reduce r t.location) = .ok next := by
        simp [Stack.apply, hnext]
      rw [ih hsound hshows, List.singleton_append, moveSteps_replay_cons happly,
        List.filterMap_cons_some (reduce?_stepOfMove hshows), Forest.reductions_reduce]
      simp
    | met clean ha hr => exact ih hsound hs
    | shift clean ha =>
      rename_i goal goals refused forest t ts first
      have happly : stack.apply .standard (.shift t) = .ok (stack.shift t) := rfl
      rw [ih hsound (hs.shift clean hc.tokens_eq), List.singleton_append,
        moveSteps_replay_cons happly, List.filterMap_cons_none rfl, Forest.reductions_leaf]

theorem EndsIn.exists_last {p : Parse} (h : p.EndsIn maxDepth tokens c) :
    ∃ last, p.steps = p.moveSteps ++ [last]
      ∧ last.action.act? p.stack.symbols = some last.stack
      ∧ last.shift? = none ∧ last.reduce? = none ∧ last.Concludes p.outcome := by
  unfold Parse.steps
  cases hending : p.ending with
  | halt d =>
    have houtcome : p.outcome = .error [d] := by simp [outcome, hending]
    rw [houtcome]
    exact ⟨stepOfHalt d p.stack, rfl, rfl, rfl, rfl, d, rfl, rfl, rfl⟩
  | accept lookahead =>
    obtain ⟨T, prog, t, ts, -, -, -, -, -, -, -, -, hok, hstack⟩ := h.of_accept hending
    have hresult : result lookahead p.stack = .ok prog := by
      cases hr : result lookahead p.stack with
      | error d => simp [outcome, hending, hr, Except.mapError] at hok
      | ok prog' => simpa [outcome, hending, hr, Except.mapError] using hok
    have hsymbols : p.stack.symbols = [.program] := by
      have := congrArg (List.map Prod.fst) hstack
      rw [List.map_map] at this
      exact congrArg List.reverse this
    rw [hok]
    refine ⟨⟨.accept, p.stack.symbols, lookahead⟩, ?_, rfl, rfl, rfl, rfl, hsymbols⟩
    simp [lastSteps, hresult, moveSteps]

theorem EndsIn.faithful {p : Parse} (h : p.EndsIn maxDepth tokens c) :
    TraceStep.Faithful tokens p.shifted.length p.outcome p.steps := by
  have hreplay := replay_moveSteps p.ending [] (p.history.map Prod.fst)
  have hreductions := reduce?_moveSteps p.ending h.steps (Config.sound_start maxDepth tokens) .nil
  rw [← h.eq_replay] at hreplay hreductions
  have htaken : tokens.take p.shifted.length = p.shifted := by
    have htokens := h.sound.tokens_eq
    rw [← h.shifted_eq] at htokens
    nth_rewrite 1 [← htokens]
    apply List.take_left ..
  obtain ⟨last, hsteps, hact, hshift, hreduce, hlast⟩ := h.exists_last
  refine ⟨?_, ?_, ?_, c.forest.reverse, ?_, ?_, ?_, ?_⟩
  · exact ⟨last.stack, hsteps ▸ hreplay.append (.cons hact (.nil _))⟩
  · rw [hsteps, List.filterMap_append, shift?_moveSteps, htaken]
    simp [hshift]
  · exact ⟨p.moveSteps, last, hsteps, fun step => action_of_mem_moveSteps, hlast⟩
  · intro T hT
    apply h.sound.valid T (List.mem_reverse.mp hT)
  · rw [htaken, h.shifted_eq]
    rfl
  · rw [hsteps, List.filterMap_append]
    simpa [hreduce, Config.start, Forest.reductions, Tree.postorderAll] using hreductions.symm
  · intro prog hok
    cases hending : p.ending with
    | halt d => simp [outcome, hending] at hok
    | accept lookahead =>
      obtain ⟨T, _, _, _, -, hforest, -, hfits, -⟩ := h.of_accept hending
      refine ⟨T, by rw [hforest]; rfl, ⟨hfits.valid, hfits.symbol_eq, ?_⟩, ?_⟩
      · rw [htaken, h.shifted_eq, hforest]
        simp [Forest.tokens]
      · rw [hforest]
        simp [Tree.postorderAll]

end Parse

namespace Session

/--
What a log has recorded is faithful if it has not refused a step.
-/
theorem parse_log (tokens : List Token) (maxDepth : Nat) (log : StepLog) :
    let session : Session := { ofTokens .standard tokens with maxDepth, log := some log }
    let taken := (Parse.ofTokens .standard maxDepth (completed tokens)).shifted.length
    ∃ recorded, session.parse.2.log = some recorded ∧ (recorded.truncated = false →
      TraceStep.Faithful (completed tokens) taken session.parse.1 recorded.steps.toList) := by
  intro session taken
  refine ⟨_, rfl, fun htruncated => ?_⟩
  obtain ⟨c, hc⟩ := Parse.exists_endsIn maxDepth (exists_eof_completed tokens)
  rw [StepLog.toList_pushAll_clear htruncated]
  apply hc.faithful

theorem parse_log_return :
    let p : Program := ⟨[.ret (.literal (.bool true) .start) .start], .start⟩
    let symbols : List Symbol := [.startKw, .returnKw, .trueKw, .semi, .endKw]
    let tokens : List Token := symbols.map fun s => ⟨s, none, s.name, .start⟩
    let session : Session :=
      { ofTokens .standard tokens with maxDepth := 2, log := some ⟨20, #[], true⟩ }
    ∃ recorded, session.parse.2.log = some recorded ∧ recorded.truncated = false
      ∧ TraceStep.Faithful (completed tokens) 5 (.ok p) recorded.steps.toList := by
  intro p symbols tokens session
  obtain ⟨recorded, hlog, hfaithful⟩ := parse_log tokens 2 ⟨20, #[], true⟩
  have htruncated : recorded.truncated = false := by
    have : session.parse.2.log.map StepLog.truncated = some false := by
      decide +kernel
    rw [hlog] at this
    exact Option.some.inj this
  have hok : session.parse.1 = .ok p := by
    rfl
  have htaken : (Parse.ofTokens .standard 2 (completed tokens)).shifted.length = 5 := by
    decide +kernel
  have h := hfaithful htruncated
  rw [htaken] at h
  exact ⟨recorded, hlog, htruncated, hok ▸ h⟩

end Session

end StartEnd
