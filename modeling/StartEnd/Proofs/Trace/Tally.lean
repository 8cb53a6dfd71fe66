import StartEnd.Proofs.Reduction.Account
import StartEnd.Proofs.Trace.Bounded
import StartEnd.Proofs.Trace.Replay

/-!
This module contains the proof that the log of a parse agrees with its program: each rule that
leaves a trace has been reduced once for each construct that it makes, wherever the construct is
nested.
-/

namespace StartEnd

namespace StepLog

theorem lookup_reductionCounts (log : StepLog) (r : Rule) :
    (log.reductionCounts.lookup r).getD 0 = log.count r := by
  rw [reductionCounts_eq, count_eq]
  by_cases hr : r ∈ log.rulesFired
  · rw [List.lookup_graph _ hr]
    rfl
  · have hzero : log.reduced.count r = 0 := List.count_eq_zero.mpr (mt log.mem_rulesFired.mpr hr)
    have hnone : (log.rulesFired.map fun q => (q, log.reduced.count q)).lookup r = none := by
      rw [List.lookup_eq_none_iff]
      intro entry hentry
      obtain ⟨q, hq, rfl⟩ := List.mem_map.mp hentry
      rw [bne_iff_ne]
      rintro rfl
      exact hr hq
    rw [hnone, hzero]
    rfl

end StepLog

theorem count_sum_map {α : Type} (f : α → Multiset Rule) (l : List α) (r : Rule) :
    (l.map f).sum.count r = (l.map fun x => (f x).count r).sum := by
  induction l with
  | nil => simp
  | cons x l ih => simp [ih]

theorem sum_map_toNat {α : Type} (P : α → Bool) (l : List α) :
    (l.map fun x => (P x).toNat).sum = l.countP P := by
  induction l with
  | nil => rfl
  | cons x l ih => cases h : P x <;> simp [h, ih, Nat.add_comm]

namespace Program

theorem allRules_eq (p : Program) :
    p.allRules
      =
    {.statementEmpty} + Multiset.replicate p.stmts.length .statementList
      + (p.stmts.map Stmt.rules).sum + (p.exprs.map Expr.rules).sum := by
  have key (list : List Stmt) :
      (list.map Stmt.listedRules).sum
        =
      Multiset.replicate list.length .statementList + (list.map Stmt.rules).sum
        + ((list.flatMap Stmt.exprs).map Expr.rules).sum := by
    induction list with
    | nil => rfl
    | cons s list ih =>
      simp only [List.map_cons, List.sum_cons, List.length_cons, List.flatMap_cons,
        List.map_append, List.sum_append, Multiset.replicate_succ, ← Multiset.singleton_add,
        Stmt.listedRules, ih]
      abel
  have hstmts := key p.stmts
  rw [allRules, Stmt.allRulesOf]
  unfold stmts at hstmts ⊢
  rw [hstmts, exprs, stmts]
  abel

end Program

theorem Stmt.count_rules (s : Stmt) {r : Rule} (hempty : r ≠ .statementEmpty)
    (hparam : r ≠ .param) : s.rules.count r = (r.makesStmt s).toNat := by
  cases s with
  | cond _ _ elseBranch => cases elseBranch <;> cases r <;> first | rfl | contradiction
  | funcDecl _ params _ _ _ =>
    have hparams : (Multiset.replicate params.length Rule.param).count r = 0 := by
      rw [Multiset.count_replicate, if_neg hparam.symm]
    rw [rules, Multiset.count_add, Multiset.count_add, hparams]
    cases r <;> first | rfl | contradiction
  | _ => cases r <;> first | rfl | contradiction

theorem Stmt.count_rules_param (s : Stmt) : s.rules.count .param = s.params.length := by
  cases s with
  | cond _ _ elseBranch => cases elseBranch <;> rfl
  | funcDecl _ params _ _ _ => simp [rules, Stmt.params]
  | _ => rfl

theorem Stmt.count_rules_statementEmpty (s : Stmt) :
    s.rules.count .statementEmpty
      =
    (s matches .cond _ _ _ _ : Bool).toNat + (s matches .cond _ _ (some _) _ : Bool).toNat
      + (s matches .loop _ _ _ : Bool).toNat + (s matches .funcDecl _ _ _ _ _ : Bool).toNat := by
  cases s with
  | cond _ _ elseBranch => cases elseBranch <;> rfl
  | funcDecl _ params _ _ _ => simp [rules, Multiset.mem_replicate]
  | _ => rfl

theorem Expr.count_rules (e : Expr) (r : Rule) : e.rules.count r = (r.makesExpr e).toNat := by
  cases e with
  | literal value _ => rcases value with _ | _ | _ | _ | _ <;> cases r <;> rfl
  | binary op _ _ _ => cases op <;> cases r <;> rfl
  | unary op _ _ => cases op <;> cases r <;> rfl
  | _ => cases r <;> rfl

namespace Program

/--
The numbers of reductions agree with the constructs of a program, wherever they are nested. Each
list of statements is closed once, be it the program's, a branch of a conditional, or the body of a
loop or of a function. The empty production is reduced once for each rule that uses it.
-/
structure Tallied (p : Program) (fired : Rule → Nat) : Prop where
  statements : fired .statementList = p.stmts.length
  lists : fired .statementEmpty
    = 1 + p.stmts.countP (· matches .cond _ _ _ _) + p.stmts.countP (· matches .cond _ _ (some _) _)
      + p.stmts.countP (· matches .loop _ _ _) + p.stmts.countP (· matches .funcDecl _ _ _ _ _)
  params : fired .param = p.params.length
  constructs : ∀ r ∈ Rule.makers,
    fired r = p.stmts.countP r.makesStmt + p.exprs.countP r.makesExpr
  empties : fired .empty
    = fired .statementEmpty + fired .optionalElseEmpty + fired .optionalParamsEmpty
      + fired .paramTailEmpty + fired .optionalArgsEmpty + fired .argTailEmpty

variable (p : Program)

theorem count_allRules (r : Rule) :
    p.allRules.count r
      =
    (if r = .statementEmpty then 1 else 0) + (if r = .statementList then p.stmts.length else 0)
      + (p.stmts.map fun s => s.rules.count r).sum + p.exprs.countP r.makesExpr := by
  rw [allRules_eq]
  simp only [Multiset.count_add, Multiset.count_singleton, Multiset.count_replicate, count_sum_map,
    Expr.count_rules, sum_map_toNat, eq_comm]

theorem sum_count_rules {r : Rule} (hempty : r ≠ .statementEmpty) (hparam : r ≠ .param) :
    (p.stmts.map fun s => s.rules.count r).sum = p.stmts.countP r.makesStmt := by
  simp only [Stmt.count_rules _ hempty hparam, sum_map_toNat]

/--
A program is made by as many reductions as it has constructs.
-/
theorem tallied_allRules {fired : Rule → Nat}
    (hcounted : ∀ r ∈ Rule.counted, fired r = p.allRules.count r)
    (hempty : fired .empty
      = fired .statementEmpty + fired .optionalElseEmpty + fired .optionalParamsEmpty
        + fired .paramTailEmpty + fired .optionalArgsEmpty + fired .argTailEmpty) :
    p.Tallied fired where
  statements := by
    rw [hcounted _ (by decide), count_allRules, sum_count_rules _ (by decide) (by decide)]
    simp [Rule.makesStmt, Rule.makesExpr]
  lists := by
    rw [hcounted _ (by decide), count_allRules]
    simp only [Stmt.count_rules_statementEmpty, List.sum_map_add, sum_map_toNat]
    simp [Rule.makesExpr]
    omega
  params := by
    rw [hcounted _ (by decide), count_allRules, params, List.length_flatMap]
    simp [Stmt.count_rules_param, Rule.makesExpr]
  constructs := by
    intro r hr
    have hne : r ≠ .statementEmpty ∧ r ≠ .statementList ∧ r ≠ .param := by
      refine ⟨?_, ?_, ?_⟩ <;> rintro rfl <;> revert hr <;> decide
    rw [hcounted r (by simp [Rule.counted, hr]), count_allRules,
      sum_count_rules _ hne.1 hne.2.2, if_neg hne.1, if_neg hne.2.1]
    omega
  empties := hempty

end Program

namespace Rule

theorem count_trace {r : Rule} (hr : r ∈ counted) (fired : List Rule) :
    ((fired.map trace).sum).count r = fired.count r := by
  induction fired with
  | nil => rfl
  | cons q fired ih =>
    have hq : q.trace.count r = if q = r then 1 else 0 := by
      by_cases h : q = r
      · simp [trace, h, hr]
      · unfold trace
        split <;> simp [Ne.symm h]
    simp only [List.map_cons, List.sum_cons, Multiset.count_add, ih, hq, List.count_cons,
      beq_iff_eq, Nat.add_comm]

/--
Six rules use the empty production, each of them once.
-/
theorem countP_empty (fired : List Rule) :
    fired.countP (fun r => Symbol.empty ∈ r.rhs)
      =
    fired.count .statementEmpty + fired.count .optionalElseEmpty + fired.count .optionalParamsEmpty
      + fired.count .paramTailEmpty + fired.count .optionalArgsEmpty
      + fired.count .argTailEmpty := by
  have key (r : Rule) :
      (decide (Symbol.empty ∈ r.rhs)).toNat
        =
      (r == .statementEmpty).toNat + (r == .optionalElseEmpty).toNat
        + (r == .optionalParamsEmpty).toNat + (r == .paramTailEmpty).toNat
        + (r == .optionalArgsEmpty).toNat + (r == .argTailEmpty).toNat := by
    cases r <;> rfl
  simp only [List.count, ← sum_map_toNat, key, List.sum_map_add]

end Rule

theorem Stack.Accounts.foldlM {fired : List Rule} {stack last : Stack} {moves : List Move}
    (h : Accounts fired stack) (hmoves : moves.foldlM (Stack.apply .standard) stack = .ok last)
    (hshift : ∀ t ∈ moves.filterMap Move.token?, t.symbol ≠ .empty) :
    Accounts (fired ++ moves.filterMap Move.rule?) last := by
  induction moves generalizing fired stack with
  | nil =>
    obtain rfl := Except.ok.inj hmoves
    simpa using h
  | cons move moves ih =>
    cases move with
    | shift t =>
      have hshift : ∀ u ∈ t :: moves.filterMap Move.token?, u.symbol ≠ .empty := hshift
      obtain ⟨ht, hshift⟩ := List.forall_mem_cons.mp hshift
      exact ih (h.shift ht) hmoves hshift
    | reduce r lookahead =>
      cases hreduce : stack.reduce .standard r lookahead with
      | error e => simp [Stack.apply, hreduce, bind, Except.bind] at hmoves
      | ok next =>
        have hrest : moves.foldlM (Stack.apply .standard) next = .ok last := by
          simpa [Stack.apply, hreduce, bind, Except.bind] using hmoves
        have := ih (h.reduce hreduce) hrest hshift
        rwa [← List.append_cons] at this

namespace Parse

variable {maxDepth : Nat} {tokens : List Token} {c : Config} {p : Parse}

theorem EndsIn.accounts (h : p.EndsIn maxDepth tokens c) : p.stack.Accounts p.fired := by
  have hshift : ∀ t ∈ p.shifted, t.symbol ≠ .empty := by
    intro t ht hempty
    rw [h.shifted_eq] at ht
    have hclean := Token.fault?_eq_none.mp (h.sound.clean t ht).1
    have hterminal := Token.isTerminal_of_wellFormed hclean.2
    rw [hempty] at hterminal
    cases hterminal
  have := Stack.accounts_nil.foldlM h.replayed hshift
  rwa [List.nil_append] at this

/--
A parse that accepts has made its program by the rules that it has reduced.
-/
theorem EndsIn.tallied (h : p.EndsIn maxDepth tokens c) {prog : Program}
    (hok : p.outcome = .ok prog) : prog.Tallied p.fired.count := by
  cases hending : p.ending with
  | halt d => simp [outcome, hending] at hok
  | accept lookahead =>
    obtain ⟨_, prog', _, _, -, -, -, -, -, -, -, -, hok', hstack⟩ := h.of_accept hending
    obtain rfl : prog' = prog := by simpa [hok'] using hok
    obtain ⟨-, hrules, hempties⟩ := h.accounts
    obtain ⟨e, hp, he⟩ : ∃ e, p.stack = [e] ∧ (e.symbol, e.node) = (.program, .program prog') := by
      simpa [List.map_eq_cons_iff] using hstack
    obtain ⟨hsymbol, hnode⟩ := Prod.mk.inj he
    apply Program.tallied_allRules
    · intro r hr
      rw [← Rule.count_trace hr, ← hrules, hp]
      simp [Entry.rules, hnode, Node.rules]
    · rw [hempties, Rule.countP_empty, hp]
      simp [hsymbol]

theorem EndsIn.countP_reduce (h : p.EndsIn maxDepth tokens c) (r : Rule) :
    p.steps.countP (fun step => step.action = .reduce r) = p.fired.count r := by
  obtain ⟨last, hsteps, -, -, hlast, -⟩ := h.exists_last
  have hne : last.action ≠ .reduce r := by
    intro hr
    simp [TraceStep.reduce?, hr] at hlast
  have hmove (entry : Move × Stack) :
      decide ((stepOfMove entry.1 entry.2).action = .reduce r)
        =
      (entry.1.rule?.map (· == r)).getD false := by
    obtain ⟨move, stack⟩ := entry
    cases move with
    | shift t => rfl
    | reduce q lookahead => simp [stepOfMove, Move.rule?, beq_eq_decide]
  have hlastCount : [last].countP (fun step => step.action = .reduce r) = 0 := by
    simp [hne]
  rw [hsteps, List.countP_append, hlastCount, Nat.add_zero, moveSteps, fired, List.count,
    List.countP_map, List.filterMap_map, List.countP_filterMap]
  congr 1
  funext entry
  exact hmove entry

end Parse

namespace Session

theorem parse_outcome (tokens : List Token) (maxDepth : Nat) (log : Option StepLog) :
    let session : Session := { ofTokens .standard tokens with maxDepth, log }
    session.parse.1 = (Parse.ofTokens .standard maxDepth (completed tokens)).outcome := rfl

/--
If a parse accepts and its log has not refused a step, the numbers of reductions in the log are
those of the constructs of the program.
-/
theorem parse_reductionCounts (tokens : List Token) (maxDepth : Nat) (log : StepLog) :
    let session : Session := { ofTokens .standard tokens with maxDepth, log := some log }
    ∃ recorded, session.parse.2.log = some recorded ∧ (recorded.truncated = false →
      ∀ p, session.parse.1 = .ok p →
        p.Tallied fun r => (recorded.reductionCounts.lookup r).getD 0) := by
  intro session
  let parse := Parse.ofTokens .standard maxDepth (completed tokens)
  refine ⟨log.clear.pushAll parse.steps, rfl, fun htruncated p hok => ?_⟩
  have hsteps := StepLog.toList_pushAll_clear htruncated
  obtain ⟨c, hc⟩ := Parse.exists_endsIn maxDepth (exists_eof_completed tokens)
  have hcount (r : Rule) : (log.clear.pushAll parse.steps).count r = parse.fired.count r := by
    rw [StepLog.count, ← Array.countP_toList, hsteps, ← hc.countP_reduce]
  simp only [StepLog.lookup_reductionCounts, hcount]
  exact hc.tallied hok

theorem parse_reductionCounts_branches :
    let p : Program := ⟨[.cond (.unary .not (.literal (.bool true) .start) .start)
      [.ret (.literal (.bool false) .start) .start] (some []) .start], .start⟩
    let symbols : List Symbol := [.startKw, .ifKw, .notKw, .trueKw, .thenKw, .returnKw, .falseKw,
      .semi, .elseKw, .endKw, .endKw]
    let tokens : List Token := symbols.map fun s => ⟨s, none, s.name, .start⟩
    let session : Session :=
      { ofTokens .standard tokens with maxDepth := 3, log := some ⟨60, #[], false⟩ }
    ∃ recorded, session.parse.1 = .ok p ∧ session.parse.2.log = some recorded
      ∧ recorded.truncated = false
      ∧ p.Tallied fun r => (recorded.reductionCounts.lookup r).getD 0 := by
  intro p symbols tokens session
  obtain ⟨recorded, hlog, htallied⟩ := parse_reductionCounts tokens 3 ⟨60, #[], false⟩
  have houtcome : (Parse.ofTokens .standard 3 (completed tokens)).outcome = .ok p := by
    rfl
  have hok : session.parse.1 = .ok p := (parse_outcome tokens 3 _).trans houtcome
  have htruncated : recorded.truncated = false := by
    have : session.parse.2.log.map StepLog.truncated = some false := by
      decide +kernel
    rw [hlog] at this
    exact Option.some.inj this
  exact ⟨recorded, hok, hlog, htruncated, htallied htruncated p hok⟩

end Session

end StartEnd
