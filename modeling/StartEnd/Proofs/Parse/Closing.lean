import StartEnd.Proofs.Parse.Expected
import StartEnd.Proofs.Parse.Reaches
import StartEnd.Proofs.Parse.ReadStatement
import StartEnd.Proofs.Token.WellFormed

/-!
This module contains the proof that goals which a parse has reached can always be closed: there are
tokens after which the parse accepts, provided that nesting does not stop it. Goals that may go on
are followed by a terminal that never continues them.
-/

namespace StartEnd

namespace Symbol

/--
A terminal that may be taken: neither the end of the input nor an error.
-/
def takeable (s : Symbol) : Bool := s.isTerminal && s ≠ .eof && s ≠ .error

theorem isTerminal_of_takeable {s : Symbol} (h : s.takeable) : s.isTerminal := by
  unfold takeable at h
  rw [Bool.and_eq_true, Bool.and_eq_true] at h
  exact h.1.1

end Symbol

/--
A token that stands for the given terminal.
-/
def Token.ofSymbol (s : Symbol) : Token :=
  match s with
  | .identifier => ⟨.identifier, some (.name ""), "", .start⟩
  | .number => ⟨.number, some (.integer 0), "", .start⟩
  | .stringLiteral => ⟨.stringLiteral, some (.text ""), "", .start⟩
  | s => ⟨s, none, "", .start⟩

@[simp]
theorem Token.symbol_ofSymbol (s : Symbol) : (ofSymbol s).symbol = s := by
  cases s <;> rfl

theorem Token.fault?_ofSymbol {s : Symbol} (h : s.takeable) : (ofSymbol s).fault? = none := by
  simp only [Symbol.takeable, Bool.and_eq_true, decide_eq_true_eq] at h
  obtain ⟨⟨hterminal, -⟩, herror⟩ := h
  rw [fault?_eq_none, symbol_ofSymbol]
  refine ⟨herror, ?_⟩
  cases s
  all_goals first | rfl | cases hterminal

/--
The terminals in front of which everything that may go on ends.
-/
def Symbol.closers : List Symbol := [.doKw, .endKw, .rParen, .semi, .thenKw]

namespace Goal

/--
Terminals that meet a goal.
-/
def closing : Goal → List Symbol
  | .take s => [s]
  | .namedStatement _ => [.assign, .number, .semi]
  | .type => [.intKw]
  | .expression _ => [.number]
  | .operand _ _ => [.number]
  | .signed _ => [.number]
  | _ => []

/--
Whether a goal may go on where it could also be met.
-/
def isOpen : Goal → Bool
  | .take _ => false
  | .reduce _ => false
  | .namedStatement _ => false
  | .type => false
  | _ => true

def closings (goals : List Goal) : List Symbol := goals.flatMap closing

/--
Whether the first of the given terminals closes what stands in front of them.
-/
def closes (after : Bool) : List Symbol → Bool
  | [] => after
  | s :: _ => Symbol.closers.contains s

/--
Goals take takeable terminals only, and each one that may go on stands in front of a terminal that
does not continue it, or in front of what stands behind all goals.
-/
def ordered (after : Bool) : List Goal → Bool
  | [] => true
  | goal :: goals =>
    goal.starts.all Symbol.takeable
      && (!goal.isOpen || closes after (closings goals))
      && ordered after goals

theorem closes_append {after last : Bool} {first rest : List Symbol} (h : closes after first)
    (hrest : after → closes last rest) : closes last (first ++ rest) := by
  cases first with
  | nil => exact hrest h
  | cons s first => exact h

theorem ordered_append {after last : Bool} {first goals : List Goal} (hfirst : ordered after first)
    (hafter : after → closes last (closings goals)) (hgoals : ordered last goals) :
    ordered last (first ++ goals) := by
  induction first with
  | nil => exact hgoals
  | cons goal first ih =>
    simp only [ordered, Bool.and_eq_true, Bool.or_eq_true, List.cons_append] at hfirst ⊢
    obtain ⟨⟨hstarts, hopen⟩, hrest⟩ := hfirst
    refine ⟨⟨hstarts, ?_⟩, ih hrest⟩
    apply hopen.imp_right
    intro hcloses
    unfold closings at hcloses ⊢
    rw [List.flatMap_append]
    apply closes_append hcloses hafter

theorem closings_climb (budget : Nat) (levels : List Level) : closings (climb budget levels) = [] := by
  unfold closings climb
  rw [List.flatMap_assoc]
  simp [closing]

theorem ordered_climb (budget : Nat) (levels : List Level) : ordered true (climb budget levels) := by
  induction levels with
  | nil => rfl
  | cons level levels ih =>
    have hfirst : ordered true [.reduce level.single, .operators level budget] := by
      cases level <;> rfl
    apply ordered_append hfirst _ ih
    intro _
    rw [closings_climb]
    rfl

theorem ordered_factor {budget : Nat} {s : Symbol} {first : List Goal}
    (ha : answerFactor .standard budget s = .shift first) : ordered true first := by
  unfold answerFactor at ha
  split at ha <;> simp only [Answer.shift.injEq, reduceCtorEq] at ha <;> subst ha <;> rfl

theorem ordered_expression {budget : Nat} {s : Symbol} {first : List Goal}
    (ha : answerExpression .standard budget s = .shift first) : ordered true first := by
  cases budget with
  | zero => cases ha
  | succ budget =>
    obtain ⟨front, hfront, rfl⟩ := Answer.followedBy_eq_shift.mp ha
    have hrest : ordered true (restOfExpression budget) := by
      apply ordered_append (ordered_climb budget _) _ rfl
      intro _
      rfl
    apply ordered_append (ordered_factor hfront) _ hrest
    intro _
    rfl

theorem ordered_of_shift {goal : Goal} {s : Symbol} {first : List Goal}
    (ha : goal.answer .standard s = .shift first) : ordered goal.isOpen first := by
  cases goal with
  | take t =>
    obtain rfl : [] = first := by
      simp only [answer] at ha
      grind
    rfl
  | reduce r => simp [answer] at ha
  | statements read budget =>
    simp only [answer, answerStatements] at ha
    split at ha <;> simp only [Answer.shift.injEq, reduceCtorEq] at ha <;> subst ha <;> rfl
  | args budget =>
    simp only [answer] at ha
    split at ha
    · obtain ⟨front, hfront, rfl⟩ := Answer.followedBy_eq_shift.mp ha
      apply ordered_append (ordered_expression hfront) _ rfl
      intro _
      rfl
    · cases ha
  | expression budget => exact ordered_expression ha
  | operand level budget =>
    obtain ⟨front, hfront, rfl⟩ := Answer.followedBy_eq_shift.mp ha
    apply ordered_append (ordered_factor hfront) _ (ordered_climb budget _)
    intro _
    rw [closings_climb]
    rfl
  | operators level budget =>
    simp only [answer] at ha
    split at ha <;> simp only [Answer.shift.injEq, reduceCtorEq] at ha
    subst ha
    cases level <;> rfl
  | signed budget =>
    cases budget with
    | zero => cases ha
    | succ budget => exact ordered_factor ha
  | _ =>
    simp only [answer] at ha
    split at ha <;> simp only [Answer.shift.injEq, reduceCtorEq] at ha <;> subst ha <;> rfl

/--
Tokens of the given terminals meet goals in front of the given symbol.
-/
def Passes (first : List Goal) (symbols : List Symbol) (u : Symbol) : Prop :=
  ∀ (goals : List Goal) (forest : Forest) (t : Token) (ts : List Token), t.symbol = u →
    ∃ built, Reaches .standard
      ⟨first ++ goals, forest, symbols.map Token.ofSymbol ++ t :: ts⟩ ⟨goals, built, t :: ts⟩

namespace Passes

variable {first rest : List Goal} {symbols more : List Symbol} {u : Symbol} {goal : Goal}

theorem nil : Passes [] [] u := by
  intro goals forest t ts _
  refine ⟨forest, ?_⟩
  intro _ refused
  exact ⟨[], refused, .refl _⟩

theorem append (h : Passes first symbols (more.headD u)) (h' : Passes rest more u) :
    Passes (first ++ rest) (symbols ++ more) u := by
  intro goals forest t ts ht
  -- What stands behind the first goals is a token that the others take or the one behind them all.
  have hbehind : ∃ v vs, more.map Token.ofSymbol ++ t :: ts = v :: vs
      ∧ v.symbol = more.headD u := by
    cases more with
    | nil => exact ⟨t, ts, rfl, ht⟩
    | cons s more => exact ⟨.ofSymbol s, _, rfl, Token.symbol_ofSymbol s⟩
  obtain ⟨v, vs, hsplit, hv⟩ := hbehind
  obtain ⟨mid, hmid⟩ := h (rest ++ goals) forest v vs hv
  obtain ⟨built, hbuilt⟩ := h' goals mid t ts ht
  rw [hsplit] at hbuilt
  rw [List.map_append, List.append_assoc, List.append_assoc, hsplit]
  exact ⟨built, hmid.trans hbuilt⟩

theorem cons (h : Passes [goal] symbols (more.headD u)) (h' : Passes rest more u) :
    Passes (goal :: rest) (symbols ++ more) u :=
  append h h'

theorem cons_of_met (h : Passes [goal] [] (more.headD u)) (h' : Passes rest more u) :
    Passes (goal :: rest) more u :=
  append h h'

theorem met {rules : List Rule} {unmet : List Symbol}
    (ha : goal.answer .standard u = .met rules unmet) : Passes [goal] [] u := by
  intro goals forest t ts ht
  rw [← ht] at ha
  exact ⟨_, .met ha⟩

theorem shift {s : Symbol} (ha : goal.answer .standard s = .shift first)
    (h : Passes first symbols u) : Passes [goal] (s :: symbols) u := by
  intro goals forest t ts ht
  obtain ⟨built, hbuilt⟩ := h goals (.leaf (.ofSymbol s) :: forest) t ts ht
  have ha : goal.answer .standard (Token.ofSymbol s).symbol = .shift first := by
    rwa [Token.symbol_ofSymbol]
  exact ⟨built, (Reaches.shift ha).trans hbuilt⟩

theorem all (h : ∀ goal ∈ first, Passes [goal] [] u) : Passes first [] u := by
  induction first with
  | nil => exact nil
  | cons goal first ih =>
    apply cons_of_met (h goal (by simp))
    apply ih
    intro goal hg
    apply h goal (by simp [hg])

end Passes

theorem passes_reduce (r : Rule) (u : Symbol) : Passes [.reduce r] [] u := .met rfl

theorem passes_take {s : Symbol} (hs : s ≠ .eof) (u : Symbol) : Passes [.take s] [s] u := by
  have ha : (take s).answer .standard s = .shift [] := by simp [answer, hs]
  exact .shift ha .nil

theorem not_mem_starts_of_closer {goal : Goal} {rules : List Rule} {unmet : List Symbol}
    (ho : goal.otherwise = .met rules unmet) : ∀ u ∈ Symbol.closers, u ∉ goal.starts := by
  cases goal with
  | take s => simp [otherwise] at ho
  | namedStatement budget => simp [otherwise] at ho
  | type => simp [otherwise] at ho
  | operand level budget => simp [otherwise] at ho
  | expression budget => cases budget <;> simp [otherwise] at ho
  | signed budget => cases budget <;> simp [otherwise] at ho
  | operators level budget =>
    show ∀ u ∈ Symbol.closers, u ∉ level.operators.map Prod.fst
    cases level <;> decide
  | statements read budget =>
    show ∀ u ∈ Symbol.closers, u ∉ Grammar.statementStarts
    decide
  | args budget =>
    show ∀ u ∈ Symbol.closers, u ∉ Grammar.expressionStarts
    decide
  | _ => simp [starts, Symbol.closers]

theorem passes_open {goal : Goal} {rules : List Rule} {unmet : List Symbol}
    (ho : goal.otherwise = .met rules unmet) {u : Symbol} (hu : u ∈ Symbol.closers) :
    Passes [goal] [] u := by
  have ha : goal.answer .standard u = .met rules unmet := by
    rw [answer_of_not_mem (not_mem_starts_of_closer ho u hu), ho]
  exact .met ha

theorem passes_climb (budget : Nat) (levels : List Level) {u : Symbol} (hu : u ∈ Symbol.closers) :
    Passes (climb budget levels) [] u := by
  apply Passes.all
  intro goal hg
  unfold climb at hg
  obtain ⟨level, -, hg⟩ := List.mem_flatMap.mp hg
  simp only [List.mem_cons, List.not_mem_nil, or_false] at hg
  cases hg with
  | inl hg => exact hg ▸ passes_reduce _ u
  | inr hg => exact hg ▸ passes_open rfl hu

theorem passes_expression (budget : Nat) {u : Symbol} (hu : u ∈ Symbol.closers) :
    Passes [.expression (budget + 1)] [.number] u := by
  have ha : (expression (budget + 1)).answer .standard .number
      = .shift (.reduce .factorNumber :: restOfExpression budget) := rfl
  apply Passes.shift ha
  apply Passes.cons_of_met (passes_reduce _ _)
  unfold restOfExpression
  exact @Passes.append _ _ [] [] u (passes_climb _ _ hu) (passes_reduce _ u)

theorem passes_closing {goal : Goal} (ht : goal.starts.all Symbol.takeable) {u : Symbol}
    (hu : goal.isOpen → u ∈ Symbol.closers) : Passes [goal.deepen 1] goal.closing u := by
  cases goal with
  | take s =>
    apply passes_take
    intro hs
    simp [starts, Symbol.takeable, hs] at ht
  | reduce r => apply passes_reduce
  | type =>
    have ha : type.answer .standard .intKw = .shift [.reduce .typeInt] := rfl
    exact .shift ha (passes_reduce _ u)
  | namedStatement budget =>
    have ha : (namedStatement (budget + 1)).answer .standard .assign
        = .shift [.expression (budget + 1), .take .semi, .reduce .assignment,
            .reduce .statementAssignment] := rfl
    apply Passes.shift ha
    have hsemi : Symbol.semi ∈ Symbol.closers := by decide
    have hexpression := passes_expression budget hsemi
    apply @Passes.cons _ [.number] [.semi] u _ hexpression
    apply @Passes.cons _ [.semi] [] u _ (passes_take (by decide) _)
    exact .cons_of_met (passes_reduce _ _) (passes_reduce _ u)
  | expression budget => exact passes_expression _ (hu rfl)
  | operand level budget =>
    have ha : (operand level (budget + 1)).answer .standard .number
        = .shift (.reduce .factorNumber :: climb (budget + 1) level.tighter) := rfl
    apply Passes.shift ha
    exact .cons_of_met (passes_reduce _ _) (passes_climb _ _ (hu rfl))
  | signed budget =>
    have ha : (signed (budget + 1)).answer .standard .number = .shift [.reduce .factorNumber] := rfl
    exact .shift ha (passes_reduce _ u)
  | _ => exact passes_open rfl (hu rfl)

theorem passes_closings {goals : List Goal} {after : Bool} (h : ordered after goals) {u : Symbol}
    (hu : after → u ∈ Symbol.closers) :
    Passes (goals.map (deepen 1)) (closings goals) u := by
  induction goals with
  | nil => exact .nil
  | cons goal goals ih =>
    simp only [ordered, Bool.and_eq_true, Bool.or_eq_true, Bool.not_eq_true'] at h
    obtain ⟨⟨hstarts, hopen⟩, hgoals⟩ := h
    apply Passes.cons _ (ih hgoals)
    -- An open goal stands in front of the first terminal by which the goals behind it are closed.
    apply passes_closing hstarts
    intro ho
    have hcloses := hopen.resolve_left (by simp [ho])
    generalize closings goals = symbols at hcloses ⊢
    cases symbols with
    | nil => exact hu hcloses
    | cons s symbols => exact List.contains_iff_mem.mp hcloses

theorem takeable_closings {goals : List Goal} {after : Bool} (h : ordered after goals) :
    (closings goals).all Symbol.takeable := by
  induction goals with
  | nil => rfl
  | cons goal goals ih =>
    simp only [ordered, Bool.and_eq_true] at h
    obtain ⟨⟨hstarts, -⟩, hgoals⟩ := h
    have hclosing : goal.closing.all Symbol.takeable := by
      cases goal with
      | take s => exact hstarts
      | _ => rfl
    unfold closings
    rw [List.flatMap_cons, List.all_append, hclosing]
    apply ih hgoals

end Goal

namespace Run

open Goal

/--
Ordered goals in front of the end of the program.
-/
def Closable (goals : List Goal) : Prop :=
  ∃ first, goals = first ++ lastGoals ∧ ordered false first

theorem closable_program (budget : Nat) : Closable (program budget) :=
  ⟨[.take .startKw, .statements 0 budget, .take .endKw], rfl, rfl⟩

theorem Closable.settle {goals next : List Goal} (h : Closable goals) {s : Symbol}
    {refused : List Symbol} (hv : (settle .standard s goals refused).2 = .shift next) :
    Closable next := by
  obtain ⟨first, rfl, hordered⟩ := h
  induction first generalizing refused with
  | nil =>
    by_cases hs : s = .eof
    · simp [lastGoals, Run.settle, answer, hs] at hv
    · simp [lastGoals, Run.settle, answer, hs] at hv
  | cons goal first ih =>
    simp only [ordered, Bool.and_eq_true, Bool.or_eq_true, Bool.not_eq_true'] at hordered
    obtain ⟨⟨-, hopen⟩, hfirst⟩ := hordered
    rw [List.cons_append] at hv
    cases ha : goal.answer .standard s with
    | met rules unmet =>
      rw [settle_met ha] at hv
      apply ih hfirst hv
    | shift begun =>
      -- The goals in front of this one are met; what it has begun stands in its place.
      rw [settle_shift ha] at hv
      cases hv
      refine ⟨begun ++ first, by simp, ?_⟩
      apply ordered_append (ordered_of_shift ha) _ hfirst
      intro ho
      apply hopen.resolve_left (by simp [ho])
    | refuse unmet =>
      rw [settle_refused ha] at hv
      cases hv
    | tooDeep => simp [Run.settle, ha] at hv

theorem Closable.advance {goals next : List Goal} (h : Closable goals) {tokens : List Token}
    (hn : advance .standard goals tokens = some next) : Closable next := by
  induction tokens generalizing goals with
  | nil => rwa [← Option.some.inj hn]
  | cons t ts ih =>
    unfold Run.advance at hn
    split at hn
    · next hv => exact ih (h.settle hv) hn
    · cases hn

theorem Closable.expects {goals : List Goal} (h : Closable goals) {s : Symbol} {e : List Symbol}
    (hv : (Run.settle .standard s goals []).2 = .refuse e) :
    Expects goals e ∧ ∀ u ∈ e, u = .eof ∨ u.takeable := by
  obtain ⟨first, rfl, hordered⟩ := h
  have hstarts : ∀ goal ∈ first, goal.starts.all Symbol.takeable := by
    clear hv
    induction first with
    | nil => simp
    | cons goal first ih =>
      simp only [ordered, Bool.and_eq_true] at hordered
      obtain ⟨⟨hstarts, -⟩, hfirst⟩ := hordered
      intro other hg
      cases List.mem_cons.mp hg with
      | inl hg => rwa [hg]
      | inr hg => exact ih hfirst other hg
  have htakeable {u : Symbol} {goal : Goal} (hg : goal ∈ first) (hu : u ∈ goal.starts) :
      u.takeable := List.all_eq_true.mp (hstarts goal hg) u hu
  have heof : ∀ goal ∈ first, .eof ∉ goal.starts := by
    intro goal hg hmem
    have := htakeable hg hmem
    simp [Symbol.takeable] at this
  obtain ⟨expected, rfl, hexpects, hmem⟩ := expects_of_refuse heof hv
  refine ⟨hexpects, ?_⟩
  intro u hu
  apply (hmem u hu).imp_right
  rintro ⟨goal, hg, hu⟩
  apply htakeable hg hu

theorem Closable.accepts {goals : List Goal} (h : Closable goals) :
    ∃ more : List Token, (∀ t ∈ more, t.fault? = none) ∧
      ∀ forest, ∃ built, Reaches .standard ⟨goals.map (deepen 1), forest, more ++ [.eof .start]⟩
        ⟨[], built, [.eof .start]⟩ := by
  obtain ⟨first, rfl, hordered⟩ := h
  have hclosings := takeable_closings hordered
  refine ⟨(closings first).map .ofSymbol, ?_, ?_⟩
  · intro t ht
    obtain ⟨s, hs, rfl⟩ := List.mem_map.mp ht
    apply Token.fault?_ofSymbol (List.all_eq_true.mp hclosings s hs)
  · intro forest
    have hnone : false → Symbol.eof ∈ Symbol.closers := nofun
    obtain ⟨built, hbuilt⟩ := passes_closings hordered hnone lastGoals forest (.eof .start) [] rfl
    have hlast : lastGoals.map (deepen 1) = lastGoals := rfl
    rw [List.map_append, hlast]
    have heof : (take .eof).answer .standard (Token.eof .start).symbol = .met [] [] := rfl
    have hprogram : (reduce .program).answer .standard (Token.eof .start).symbol
        = .met [.program] [] := rfl
    have hdone : Reaches .standard ⟨lastGoals, built, [.eof .start]⟩ ⟨[], _, [.eof .start]⟩ :=
      (Reaches.met heof).trans (.met hprogram)
    exact ⟨_, hbuilt.trans hdone⟩

end Run

end StartEnd
