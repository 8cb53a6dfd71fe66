import StartEnd.Proofs.Parse.Moves

/-!
This module contains what goals make of tokens that they take one after the other, without the moves
that they make on the way. The run of a list of tokens advances over the tokens that it takes, and it
ends with what the goals that remain make of the next one.
-/

namespace StartEnd

namespace Run

variable {g : Grammar}

/--
The goals that remain once tokens have been taken, if all of them are.
-/
def advance (g : Grammar) : List Goal → List Token → Option (List Goal)
  | goals, [] => some goals
  | goals, t :: ts =>
    match t.fault?, (settle g t.symbol goals []).2 with
    | none, .shift next => advance g next ts
    | _, _ => none

theorem advance_cons {goals next : List Goal} {t : Token} (clean : t.fault? = none)
    (h : (settle g t.symbol goals []).2 = .shift next) (ts : List Token) :
    advance g goals (t :: ts) = advance g next ts := by
  simp [advance, clean, h]

theorem advance_append (goals : List Goal) (first rest : List Token) :
    advance g goals (first ++ rest) = (advance g goals first).bind (advance g · rest) := by
  induction first generalizing goals with
  | nil => rfl
  | cons t ts ih =>
    rw [List.cons_append]
    cases hf : t.fault? with
    | some complaint => simp [advance, hf]
    | none =>
      cases hv : (settle g t.symbol goals []).2 with
      | shift next =>
        rw [advance_cons hf hv, advance_cons hf hv]
        apply ih
      | _ => simp [advance, hf, hv]

theorem exists_of_advance_append {goals last : List Goal} {first rest : List Token}
    (h : advance g goals (first ++ rest) = some last) :
    ∃ next, advance g goals first = some next ∧ advance g next rest = some last := by
  rw [advance_append] at h
  apply Option.bind_eq_some_iff.mp h

theorem advance_steps {goals next : List Goal} {tokens : List Token}
    (h : advance g goals tokens = some next) (forest : Forest) (more : List Token) :
    ∃ moves built, Steps g ⟨goals, [], forest, tokens ++ more⟩ moves ⟨next, [], built, more⟩ := by
  induction tokens generalizing goals forest with
  | nil =>
    obtain rfl : goals = next := by simpa [advance] using h
    exact ⟨[], forest, .refl _⟩
  | cons t ts ih =>
    unfold advance at h
    split at h
    · next clean hv =>
      obtain ⟨moves, built, hs⟩ := ih h _
      exact ⟨_, built, (settle_steps clean forest (ts ++ more) hv).trans hs⟩
    · cases h

variable (maxDepth : Nat)

/--
How a run of tokens ends in front of the given token with the goals that remain.
-/
def EndsAt (g : Grammar) (maxDepth : Nat) (goals : List Goal) (t : Token) (e : Ending) : Prop :=
  match t.fault? with
  | some complaint => e = .halt (.badToken t complaint)
  | none => (settle g t.symbol goals []).2.ending? maxDepth t = some e

theorem ofGoals_advance (goals : List Goal) (last : Location) {tokens : List Token}
    (heof : ∃ t ∈ tokens, t.symbol = .eof) :
    let run := ofGoals g maxDepth goals last tokens
    ∃ t ts next, tokens = run.moves.filterMap Move.token? ++ t :: ts
      ∧ advance g goals (run.moves.filterMap Move.token?) = some next
      ∧ EndsAt g maxDepth next t run.ending := by
  have hreductions (rules : List Rule) (l : Location) :
      (rules.map (Move.reduce · l)).filterMap Move.token? = [] := by
    simp [Move.token?]
  induction tokens generalizing goals last with
  | nil => simp at heof
  | cons t ts ih =>
    cases hf : t.fault? with
    | some complaint =>
      rw [ofGoals_badToken maxDepth hf]
      refine ⟨t, ts, goals, rfl, rfl, ?_⟩
      simp [EndsAt, hf]
    | none =>
      generalize hv : (settle g t.symbol goals []).2 = v
      cases v with
      | shift next =>
        have hrest : ∃ u ∈ ts, u.symbol = .eof := by
          simpa [ne_eof_of_shift hv] using heof
        obtain ⟨u, us, last, htokens, hadvance, hends⟩ := ih next t.location hrest
        rw [ofGoals_shift maxDepth hf hv]
        refine ⟨u, us, last, ?_, ?_, hends⟩
        · simpa [Move.token?, Function.comp_def] using htokens
        · simpa [Move.token?, Function.comp_def, advance_cons hf hv] using hadvance
      | _ =>
        have h := congrArg (Verdict.ending? maxDepth t) hv
        rw [ofGoals_ends maxDepth hf h]
        refine ⟨t, ts, goals, by rw [hreductions]; rfl, by rw [hreductions]; rfl, ?_⟩
        unfold EndsAt
        rwa [hf]

end Run

end StartEnd
