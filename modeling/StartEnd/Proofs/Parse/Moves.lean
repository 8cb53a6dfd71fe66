import StartEnd.Proofs.Parse.Step

/-!
This module contains the proof that the run of a list of tokens makes the moves of its single steps:
what goals make of one lookahead is a series of steps, and so is the whole run.
-/

namespace StartEnd

variable {g : Grammar}

/--
How a parse ends at a token for which the goals have the given verdict, unless they take it.
-/
def Verdict.ending? (maxDepth : Nat) (t : Token) : Verdict → Option Ending
  | .shift _ => none
  | .refuse expected => some (.halt (.unexpected t expected))
  | .tooDeep => some (.halt (.tooDeep maxDepth t))
  | .accept => some (.accept t.location)

namespace Run

theorem settle_steps {t : Token} (clean : t.fault? = none) {goals next : List Goal}
    {refused : List Symbol} (forest : Forest) (ts : List Token)
    (h : (settle g t.symbol goals refused).2 = .shift next) :
    let rules := (settle g t.symbol goals refused).1
    Steps g ⟨goals, refused, forest, t :: ts⟩ (rules.map (.reduce · t.location) ++ [.shift t])
      ⟨next, [], .leaf t :: rules.foldl Forest.reduce forest, ts⟩ := by
  induction goals generalizing refused forest with
  | nil => simp [settle] at h
  | cons goal goals ih =>
    unfold settle at h ⊢
    generalize ha : goal.answer g t.symbol = a at h
    cases a with
    | met rules unmet =>
      simpa using (Steps.met clean ha goals refused forest ts).trans (ih _ h)
    | shift first =>
      obtain rfl : first ++ goals = next := by simpa using h
      exact .single (.shift clean ha)
    | refuse unmet => simp at h
    | tooDeep => simp at h

theorem settle_ends (maxDepth : Nat) {t : Token} (clean : t.fault? = none) {goals : List Goal}
    {refused : List Symbol} (forest : Forest) (ts : List Token) {e : Ending}
    (h : (settle g t.symbol goals refused).2.ending? maxDepth t = some e) :
    let rules := (settle g t.symbol goals refused).1
    ∃ c : Config, c.rest = t :: ts ∧ c.forest = rules.foldl Forest.reduce forest
      ∧ Steps g ⟨goals, refused, forest, t :: ts⟩ (rules.map (.reduce · t.location)) c
      ∧ Ends g maxDepth c e := by
  induction goals generalizing refused forest with
  | nil =>
    obtain rfl : .accept t.location = e := by simpa [settle, Verdict.ending?] using h
    exact ⟨_, rfl, rfl, .refl _, .accept clean⟩
  | cons goal goals ih =>
    unfold settle at h ⊢
    generalize ha : goal.answer g t.symbol = a at h
    cases a with
    | met rules unmet =>
      obtain ⟨c, hrest, hforest, hs, he⟩ := ih (rules.foldl Forest.reduce forest) h
      have := (Steps.met clean ha goals refused forest ts).trans hs
      exact ⟨c, hrest, by simpa using hforest, by simpa using this, he⟩
    | shift first => simp [Verdict.ending?] at h
    | refuse unmet =>
      obtain rfl : .halt (.unexpected t (refused ++ unmet)) = e := by
        simpa [Verdict.ending?] using h
      exact ⟨_, rfl, rfl, .refl _, .unexpected clean ha⟩
    | tooDeep =>
      obtain rfl : .halt (.tooDeep maxDepth t) = e := by simpa [Verdict.ending?] using h
      exact ⟨_, rfl, rfl, .refl _, .tooDeep clean ha⟩

theorem ne_eof_of_shift {s : Symbol} {goals next : List Goal} {refused : List Symbol}
    (h : (settle g s goals refused).2 = .shift next) : s ≠ .eof := by
  rintro rfl
  induction goals generalizing refused with
  | nil => simp [settle] at h
  | cons goal goals ih =>
    unfold settle at h
    generalize ha : goal.answer g .eof = a at h
    cases a with
    | met rules unmet => exact ih h
    | shift first => exact absurd ha (goal.answer_eof g first)
    | refuse unmet => cases h
    | tooDeep => cases h

variable (maxDepth : Nat)

theorem ofGoals_badToken {t : Token} {complaint : String} (h : t.fault? = some complaint)
    (goals : List Goal) (last : Location) (ts : List Token) :
    ofGoals g maxDepth goals last (t :: ts) = ⟨[], .halt (.badToken t complaint)⟩ := by
  simp [ofGoals, meet, h]

theorem ofGoals_shift {t : Token} (clean : t.fault? = none) {goals next : List Goal}
    (h : (settle g t.symbol goals []).2 = .shift next) (last : Location) (ts : List Token) :
    let rest := ofGoals g maxDepth next t.location ts
    ofGoals g maxDepth goals last (t :: ts)
      =
    ⟨(settle g t.symbol goals []).1.map (.reduce · t.location) ++ .shift t :: rest.moves,
      rest.ending⟩ := by
  simp [ofGoals, meet, clean, h]

theorem ofGoals_ends {t : Token} (clean : t.fault? = none) {goals : List Goal} {e : Ending}
    (h : (settle g t.symbol goals []).2.ending? maxDepth t = some e) (last : Location)
    (ts : List Token) :
    ofGoals g maxDepth goals last (t :: ts)
      =
    ⟨(settle g t.symbol goals []).1.map (.reduce · t.location), e⟩ := by
  generalize hv : (settle g t.symbol goals []).2 = v at h
  cases v <;> simp_all [ofGoals, meet, Verdict.ending?]

theorem ofGoals_steps (goals : List Goal) (last : Location) (forest : Forest)
    {tokens : List Token} (heof : ∃ t ∈ tokens, t.symbol = .eof) :
    let run := ofGoals g maxDepth goals last tokens
    ∃ c, Steps g ⟨goals, [], forest, tokens⟩ run.moves c ∧ Ends g maxDepth c run.ending := by
  induction tokens generalizing goals last forest with
  | nil => simp at heof
  | cons t ts ih =>
    cases hf : t.fault? with
    | some complaint =>
      rw [ofGoals_badToken maxDepth hf]
      exact ⟨_, .refl _, .badToken hf⟩
    | none =>
      generalize hv : (settle g t.symbol goals []).2 = v
      cases v with
      | shift next =>
        have hrest : ∃ u ∈ ts, u.symbol = .eof := by
          simpa [ne_eof_of_shift hv] using heof
        obtain ⟨c, hs, he⟩ := ih next t.location
          (.leaf t :: (settle g t.symbol goals []).1.foldl Forest.reduce forest) hrest
        rw [ofGoals_shift maxDepth hf hv]
        refine ⟨c, ?_, he⟩
        simpa using (settle_steps hf forest ts hv).trans hs
      -- All other verdicts end the parse in front of this token.
      | _ =>
        have h := congrArg (Verdict.ending? maxDepth t) hv
        obtain ⟨c, -, -, hs, he⟩ := settle_ends maxDepth hf forest ts h
        rw [ofGoals_ends maxDepth hf h]
        exact ⟨c, hs, he⟩

theorem ofTokens_steps {tokens : List Token} (heof : ∃ t ∈ tokens, t.symbol = .eof) :
    let run := ofTokens g maxDepth tokens
    ∃ c, Steps g (.start maxDepth tokens) run.moves c ∧ Ends g maxDepth c run.ending :=
  ofGoals_steps maxDepth _ _ _ heof

theorem ofTokens_eq_of_steps {tokens : List Token} (heof : ∃ t ∈ tokens, t.symbol = .eof)
    {c : Config} {moves : List Move} {e : Ending} (hs : Steps g (.start maxDepth tokens) moves c)
    (he : Ends g maxDepth c e) : ofTokens g maxDepth tokens = ⟨moves, e⟩ := by
  obtain ⟨d, hs', he'⟩ := ofTokens_steps maxDepth heof
  obtain ⟨h, -, h'⟩ := hs'.unique he' hs he
  rw [← h, ← h']

end Run

end StartEnd
