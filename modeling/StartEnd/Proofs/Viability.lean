import StartEnd.Proofs.Failure
import StartEnd.Proofs.Parse.Closing

/-!
This module contains the proof that a session which does not expect a token has taken the beginning
of a program, and that it reports exactly the terminals by which that beginning can go on.
-/

namespace StartEnd

namespace Run

variable {g : Grammar}

theorem ne_eof_of_advance {goals next : List Goal} {tokens : List Token}
    (h : advance g goals tokens = some next) : ∀ t ∈ tokens, t.symbol ≠ .eof := by
  induction tokens generalizing goals with
  | nil => simp
  | cons t ts ih =>
    unfold advance at h
    split at h
    · next hv =>
      intro u hu
      cases List.mem_cons.mp hu with
      | inr hu => exact ih h u hu
      | inl hu =>
        rw [hu]
        exact ne_eof_of_shift hv
    · cases h

theorem advance_append_singleton {goals mid next : List Goal} {tokens : List Token} {t : Token}
    (h : advance g goals tokens = some mid) (clean : t.fault? = none)
    (hv : (settle g t.symbol mid []).2 = .shift next) :
    advance g goals (tokens ++ [t]) = some next := by
  rw [advance_append, h, Option.bind_some, advance_cons clean hv]
  rfl

theorem exists_of_advance_append_singleton {goals next : List Goal} {tokens : List Token}
    {t : Token} (h : advance g goals (tokens ++ [t]) = some next) :
    ∃ mid, advance g goals tokens = some mid ∧ (settle g t.symbol mid []).2 = .shift next := by
  obtain ⟨mid, hmid, h⟩ := exists_of_advance_append h
  refine ⟨mid, hmid, ?_⟩
  unfold advance at h
  split at h
  · next hv =>
    rw [hv]
    exact congrArg Verdict.shift (Option.some.inj h)
  · cases h

/--
Two nesting limits make the same of a lookahead behind the same tokens, unless one of them stops the
parse.
-/
theorem settle_unique {depth depth' : Nat} {tokens : List Token} {next next' : List Goal}
    (h : advance g (Goal.program depth) tokens = some next)
    (h' : advance g (Goal.program depth') tokens = some next') {s : Symbol}
    (hv : (settle g s next []).2 ≠ .tooDeep) (hv' : (settle g s next' []).2 ≠ .tooDeep) :
    (settle g s next []).2.deepen depth' = (settle g s next' []).2.deepen depth := by
  have hdeep := advance_deepen depth' h
  have hdeep' := advance_deepen depth h'
  rw [Goal.deepen_program] at hdeep hdeep'
  have hnext : next.map (Goal.deepen depth') = next'.map (Goal.deepen depth) := by
    rw [Nat.add_comm, hdeep'] at hdeep
    exact (Option.some.inj hdeep).symm
  rw [← settle_deepen depth' hv, ← settle_deepen depth hv', hnext]

theorem Closable.eq_eof_of_accept {goals : List Goal} (h : Closable goals) {s : Symbol}
    {refused : List Symbol} (hv : (Run.settle .standard s goals refused).2 = .accept) :
    s = .eof := by
  obtain ⟨first, rfl, -⟩ := h
  induction first generalizing refused with
  | nil =>
    apply Classical.byContradiction
    intro hs
    simp [lastGoals, Run.settle, Goal.answer, hs] at hv
  | cons goal first ih =>
    rw [List.cons_append] at hv
    cases ha : goal.answer .standard s with
    | met rules unmet =>
      rw [settle_met ha] at hv
      apply ih hv
    | _ => simp [Run.settle, ha] at hv

variable {maxDepth : Nat} {goals : List Goal} {t : Token}

theorem EndsAt.of_accept {lookahead : Location}
    (h : EndsAt g maxDepth goals t (.accept lookahead)) :
    (settle g t.symbol goals []).2 = .accept := by
  unfold EndsAt at h
  split at h
  · cases h
  · generalize (settle g t.symbol goals []).2 = v at h ⊢
    cases v with
    | accept => rfl
    | _ => simp [Verdict.ending?] at h

theorem EndsAt.of_unexpected {d : Diagnostic} (h : EndsAt g maxDepth goals t (.halt d))
    (hd : d.kind = .parseError) :
    ∃ e, (settle g t.symbol goals []).2 = .refuse e ∧ d = .unexpected t e := by
  unfold EndsAt at h
  split at h
  · cases h
    cases hd
  · generalize (settle g t.symbol goals []).2 = v at h ⊢
    cases v with
    | refuse e =>
      refine ⟨e, rfl, ?_⟩
      simpa [Verdict.ending?, eq_comm] using h
    | tooDeep =>
      cases h
      cases hd
    | _ => simp [Verdict.ending?] at h

end Run

namespace Session

open Run

/--
Whether a session accepts tokens whose constructs may be nested up to the given depth.
-/
def Accepts (maxDepth : Nat) (tokens : List Token) : Prop :=
  ∃ p, ((ofTokens .standard tokens).withMaxDepth maxDepth).parse.1 = .ok p

/--
Whether tokens are the beginning of a program, if enough nesting is allowed.
-/
def Viable (tokens : List Token) : Prop :=
  ∃ more maxDepth, Accepts maxDepth (tokens ++ more)

variable {maxDepth : Nat} {tokens : List Token}

theorem accepts_of_steps {moves : List Move} {c : Config} {lookahead : Location}
    (hs : Steps .standard (.start maxDepth (completed tokens)) moves c)
    (he : Ends .standard maxDepth c (.accept lookahead)) : Accepts maxDepth tokens := by
  have hrun := Run.ofTokens_eq_of_steps maxDepth (exists_eof_completed tokens) hs he
  obtain ⟨c, hc⟩ := Parse.exists_endsIn maxDepth (exists_eof_completed tokens)
  rw [hc.run_eq] at hrun
  obtain ⟨T, p, t, ts, -, -, -, -, -, -, -, -, hok, -⟩ := hc.of_accept (congrArg Run.ending hrun)
  exact ⟨p, hok⟩

theorem ending_of_accepts (h : Accepts maxDepth tokens) :
    ∃ lookahead,
      (Parse.ofTokens .standard maxDepth (completed tokens)).ending = .accept lookahead := by
  obtain ⟨p, h⟩ := h
  change (Parse.ofTokens .standard maxDepth (completed tokens)).outcome = .ok p at h
  cases he : (Parse.ofTokens .standard maxDepth (completed tokens)).ending with
  | accept lookahead => exact ⟨lookahead, rfl⟩
  | halt d => simp [Parse.outcome, he] at h

theorem exists_advance (maxDepth : Nat) (tokens : List Token) :
    let parse := Parse.ofTokens .standard maxDepth (completed tokens)
    ∃ t ts next, completed tokens = parse.shifted ++ t :: ts
      ∧ advance .standard (Goal.program maxDepth) parse.shifted = some next
      ∧ EndsAt .standard maxDepth next t parse.ending := by
  obtain ⟨c, hc⟩ := Parse.exists_endsIn maxDepth (exists_eof_completed tokens)
  have h := ofGoals_advance (g := .standard) maxDepth (Goal.program maxDepth) .start
    (exists_eof_completed tokens)
  have hrun := hc.run_eq
  unfold Run.ofTokens at hrun
  rwa [hrun] at h

theorem accepts_iff : Accepts maxDepth tokens ↔
    ∃ next, advance .standard (Goal.program maxDepth) (input tokens) = some next
      ∧ (settle .standard .eof next []).2 = .accept := by
  constructor
  · intro h
    obtain ⟨lookahead, he⟩ := ending_of_accepts h
    obtain ⟨t, ts, next, htokens, hnext, hends⟩ := exists_advance maxDepth tokens
    rw [he] at hends
    have hv := hends.of_accept
    have heof := ((closable_program maxDepth).advance hnext).eq_eof_of_accept hv
    rw [← input_completed, htokens, input_append_eof (ne_eof_of_advance hnext) heof]
    rw [heof] at hv
    exact ⟨next, hnext, hv⟩
  · intro ⟨next, hnext, hv⟩
    obtain ⟨e, rest, htokens, he⟩ := completed_eq tokens
    obtain ⟨moves, built, hsteps⟩ := advance_steps hnext [] (e :: rest)
    have clean := Token.fault?_eq_none_of_eof he
    have hv : (settle .standard e.symbol next []).2.ending? maxDepth e
        = some (.accept e.location) := by
      rw [he, hv]
      rfl
    obtain ⟨c, -, -, hs, hends⟩ := settle_ends maxDepth clean built rest hv
    rw [← htokens] at hsteps
    apply accepts_of_steps (hsteps.trans hs) hends

theorem viable_of_advance {next : List Goal}
    (h : advance .standard (Goal.program maxDepth) tokens = some next) : Viable tokens := by
  -- One more level of nesting is enough, as no closing opens more than one.
  have hdeep := advance_deepen 1 h
  rw [Goal.deepen_program] at hdeep
  let e := Token.eof .start
  obtain ⟨more, hmore, hreaches⟩ := ((closable_program maxDepth).advance h).accepts
  obtain ⟨moves, built, hsteps⟩ := advance_steps hdeep [] (more ++ [e])
  have clean : ∀ t ∈ more ++ [e], t.fault? = none := by
    intro t ht
    cases List.mem_append.mp ht with
    | inl ht => exact hmore t ht
    | inr ht => rw [List.mem_singleton.mp ht, Token.fault?_eq_none_of_eof rfl]
  obtain ⟨last, hlast⟩ := hreaches built
  obtain ⟨moves', refused, hsteps'⟩ := hlast clean []
  have hcompleted : completed (tokens ++ (more ++ [e])) = tokens ++ (more ++ [e]) := by
    simp [completed, e, Token.eof]
  refine ⟨more ++ [e], maxDepth + 1, ?_⟩
  have hall := hsteps.trans hsteps'
  rw [← hcompleted] at hall
  apply accepts_of_steps hall (.accept (Token.fault?_eq_none_of_eof rfl))

theorem exists_advance_of_viable (h : Viable tokens) (hw : ∀ t ∈ tokens, t.symbol ≠ .eof) :
    ∃ depth next, advance .standard (Goal.program depth) tokens = some next := by
  obtain ⟨more, depth, h⟩ := h
  obtain ⟨last, hlast, -⟩ := accepts_iff.mp h
  rw [input_append hw] at hlast
  obtain ⟨next, hnext, -⟩ := exists_of_advance_append hlast
  exact ⟨depth, next, hnext⟩

section Expects

variable {next : List Goal} {expected : List Symbol}
variable (h : advance .standard (Goal.program maxDepth) tokens = some next)
variable (he : Expects next expected)
include h he

theorem mem_of_settle {depth : Nat} {other : List Goal}
    (hother : advance .standard (Goal.program depth) tokens = some other) {s : Symbol}
    (hv : (∃ goals, (settle .standard s other []).2 = .shift goals)
      ∨ (settle .standard s other []).2 = .accept) : s ∈ expected := by
  apply Classical.byContradiction
  intro hs
  -- Otherwise one limit refuses what another takes, although neither stops the parse there.
  obtain ⟨e, hrefuse⟩ := he.refuse s hs []
  have hunique := settle_unique h hother (s := s) (by simp [hrefuse]) (by grind)
  rw [hrefuse] at hunique
  obtain ⟨goals, hv⟩ | hv := hv
  · simp [hv, Verdict.deepen] at hunique
  · simp [hv, Verdict.deepen] at hunique

theorem eof_mem_of_accepts {depth : Nat} (ha : Accepts depth tokens) : .eof ∈ expected := by
  obtain ⟨other, hother, hv⟩ := accepts_iff.mp ha
  rw [input_eq_self (ne_eof_of_advance h)] at hother
  apply mem_of_settle h he hother (.inr hv)

theorem accepts_of_eof_mem (hmem : .eof ∈ expected) : Accepts maxDepth tokens := by
  apply accepts_iff.mpr
  rw [input_eq_self (ne_eof_of_advance h)]
  exact ⟨next, h, he.accept hmem []⟩

theorem mem_iff_viable (ht : ∀ u ∈ expected, u = .eof ∨ u.takeable) {t : Token}
    (hw : t.wellFormed) (hne : t.symbol ≠ .eof) :
    t.symbol ∈ expected ↔ Viable (tokens ++ [t]) := by
  constructor
  · intro hmem
    have htakeable := (ht t.symbol hmem).resolve_left hne
    have clean : t.fault? = none := by
      rw [Token.fault?_eq_none]
      refine ⟨?_, hw⟩
      intro herror
      simp [Symbol.takeable, herror] at htakeable
    have hdeep := advance_deepen 1 h
    rw [Goal.deepen_program] at hdeep
    obtain ⟨goals, hv⟩ := he.shift t.symbol hmem hne []
    apply viable_of_advance (advance_append_singleton hdeep clean hv)
  · intro hviable
    have hinput : ∀ u ∈ tokens ++ [t], u.symbol ≠ .eof := by
      intro u hu
      cases List.mem_append.mp hu with
      | inl hu => exact ne_eof_of_advance h u hu
      | inr hu => rwa [List.mem_singleton.mp hu]
    obtain ⟨depth, last, hlast⟩ := exists_advance_of_viable hviable hinput
    obtain ⟨other, hother, hv⟩ := exists_of_advance_append_singleton hlast
    exact mem_of_settle h he hother (.inl ⟨last, hv⟩)

end Expects

/--
A parse error comes at the first token with which the tokens before it are not the beginning of a
program, and the expected terminals are exactly those that can stand there.
-/
theorem parse_eq_unexpected (tokens : List Token) (maxDepth : Nat) (log : Option StepLog)
    (d : Diagnostic) :
    let session : Session := { ofTokens .standard tokens with maxDepth, log }
    let taken := (Parse.ofTokens .standard maxDepth (completed tokens)).shifted
    session.parse.1 = .error [d] → d.kind = .parseError →
      taken = (completed tokens).take taken.length
      ∧ Viable taken
      ∧ d.expected.Pairwise (fun s u => s.id < u.id)
      ∧ (∀ s ∈ d.expected, s.isTerminal)
      ∧ (∀ t : Token, t.wellFormed → t.symbol ≠ .eof →
          (t.symbol ∈ d.expected ↔ Viable (taken ++ [t])))
      ∧ (.eof ∈ d.expected ↔ Accepts maxDepth taken)
      ∧ (.eof ∈ d.expected ↔ ∃ depth, Accepts depth taken)
      ∧ ∃ t, (completed tokens)[taken.length]? = some t ∧ t.symbol ∉ d.expected := by
  intro session taken h hkind
  obtain ⟨t, ts, next, htokens, hnext, hends⟩ := exists_advance maxDepth tokens
  obtain ⟨c, hc⟩ := Parse.exists_endsIn maxDepth (exists_eof_completed tokens)
  obtain ⟨_, hd, hhalt⟩ := hc.of_error h
  cases hd
  rw [hhalt] at hends
  obtain ⟨e, hv, rfl⟩ := hends.of_unexpected hkind
  obtain ⟨hexpects, htakeable⟩ := ((closable_program maxDepth).advance hnext).expects hv
  have hmem (s : Symbol) : s ∈ (Diagnostic.unexpected t e).expected ↔ s ∈ e := Symbol.mem_sorted
  refine ⟨?_, viable_of_advance hnext, Symbol.pairwise_sorted e, ?_, ?_, ?_, ?_, t, ?_, ?_⟩
  · rw [htokens]
    exact (List.take_left ..).symm
  · intro s hs
    rw [hmem] at hs
    cases htakeable s hs with
    | inl heof => rw [heof]; rfl
    | inr ht => exact Symbol.isTerminal_of_takeable ht
  · intro u hw hne
    rw [hmem]
    apply mem_iff_viable hnext hexpects htakeable hw hne
  · rw [hmem]
    exact ⟨accepts_of_eof_mem hnext hexpects, eof_mem_of_accepts hnext hexpects⟩
  · rw [hmem]
    constructor
    · intro heof
      exact ⟨maxDepth, accepts_of_eof_mem hnext hexpects heof⟩
    · intro ⟨depth, ha⟩
      apply eof_mem_of_accepts hnext hexpects ha
  · rw [htokens]
    simp [taken]
  · rw [hmem]
    apply hexpects.not_mem_of_refuse hv

/--
Behind a name, a statement goes on with a call or an assignment.
-/
theorem parse_eq_unexpected_name :
    let tokens := [Token.ofSymbol .startKw, Token.ofSymbol .identifier]
    let session : Session := { ofTokens .standard tokens with maxDepth := 1, log := none }
    let d := Diagnostic.unexpected (.eof .start) [.lParen, .assign]
    session.parse.1 = .error [d] ∧ d.kind = .parseError ∧ d.expected = [.assign, .lParen]
      ∧ Viable tokens ∧ ∀ t : Token, t.wellFormed → t.symbol ≠ .eof →
        (t.symbol ∈ d.expected ↔ Viable (tokens ++ [t])) := by
  intro tokens session d
  have h : session.parse.1 = .error [d] := rfl
  obtain ⟨-, hviable, -, -, hexpected, -⟩ := parse_eq_unexpected tokens 1 none d h rfl
  exact ⟨h, rfl, rfl, hviable, hexpected⟩

end Session

end StartEnd
