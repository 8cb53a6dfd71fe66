import StartEnd.Proofs.Session
import StartEnd.Proofs.Viability

/-!
This module contains the proof that a parse looks one token ahead and no further: every move of a run
reads the token at the position that the run has reached, which always is a token of the list, and
tokens behind the one at which the run ends change neither the outcome nor the log.
-/

namespace StartEnd

/--
A move that is made with the given token as the lookahead.
-/
def Move.Reads (lookahead : Token) : Move → Prop
  | .shift t => t = lookahead ∧ t.symbol ≠ .eof
  | .reduce _ l => l = lookahead.location

/--
The index of the lookahead behind the given moves, which is the number of tokens they take.
-/
def Move.position (moves : List Move) : Nat := (moves.filterMap Move.token?).length

namespace Step

variable {g : Grammar} {c d : Config} {moves : List Move}

theorem reads (h : Step g c moves d) : ∃ t ts, c.rest = t :: ts ∧ ∀ move ∈ moves, move.Reads t := by
  cases h with
  | reduce clean => exact ⟨_, _, rfl, by simp [Move.Reads]⟩
  | met clean ha hr => exact ⟨_, _, rfl, by simp⟩
  | shift clean ha =>
    rename_i goal goals refused forest t ts first
    have hne : t.symbol ≠ .eof := by
      intro heof
      rw [heof] at ha
      apply Goal.answer_eof g goal first ha
    exact ⟨t, ts, rfl, by simp [Move.Reads, hne]⟩

theorem length_moves_le (h : Step g c moves d) : moves.length ≤ 1 := by
  cases h <;> simp

end Step

namespace Steps

variable {g : Grammar} {c d : Config} {moves before after : List Move}

/--
Steps stop in a state of their own behind each of their moves.
-/
theorem exists_between (h : Steps g c moves d) (hm : moves = before ++ after) :
    ∃ mid, Steps g c before mid ∧ Steps g mid after d := by
  induction h generalizing before with
  | refl c =>
    obtain ⟨rfl, rfl⟩ := List.append_eq_nil_iff.mp hm.symm
    exact ⟨c, .refl c, .refl c⟩
  | head h hs ih =>
    rename_i first rest
    cases before with
    | nil =>
      refine ⟨_, .refl _, ?_⟩
      rw [← List.nil_append after, ← hm]
      exact .head h hs
    | cons move before =>
      -- A single step makes at most one move, which is then the first one.
      have hlen := h.length_moves_le
      cases first with
      | nil =>
        obtain ⟨mid, hbefore, hafter⟩ := ih hm
        exact ⟨mid, .head h hbefore, hafter⟩
      | cons move' first =>
        obtain rfl : first = [] := by simpa using hlen
        obtain ⟨rfl, hrest⟩ := List.cons.inj hm
        obtain ⟨mid, hbefore, hafter⟩ := ih hrest
        exact ⟨mid, .head h hbefore, hafter⟩

theorem reads_head {move : Move} (h : Steps g c moves d) (hm : moves = move :: after) :
    ∃ t ts, c.rest = t :: ts ∧ move.Reads t := by
  induction h with
  | refl => cases hm
  | head h _ ih =>
    obtain ⟨t, ts, hrest, hreads⟩ := h.reads
    cases h with
    | met clean ha hr => exact ih hm
    | _ =>
      obtain ⟨rfl, -⟩ := List.cons.inj hm
      exact ⟨t, ts, hrest, hreads _ (by simp)⟩

end Steps

theorem Ends.rest_ne_nil {g : Grammar} {maxDepth : Nat} {c : Config} {e : Ending}
    (h : Ends g maxDepth c e) : c.rest ≠ [] := by
  cases h <;> simp

namespace Run

variable {g : Grammar} (maxDepth : Nat)

theorem filterMap_token?_meet (goals : List Goal) (t : Token) :
    (meet g maxDepth goals t).1.filterMap Move.token? = [] := by
  have hreductions (rules : List Rule) :
      (rules.map (Move.reduce · t.location)).filterMap Move.token? = [] := by
    simp [Move.token?]
  cases hf : t.fault? with
  | some complaint => simp [meet, hf]
  | none => cases hv : (settle g t.symbol goals []).2 <;> simp only [meet, hf, hv, hreductions]

/--
A run does not depend on the tokens behind the one at which it ends.
-/
theorem ofGoals_eq_of_taken (goals : List Goal) (last : Location) {taken : List Token} {t : Token}
    {ts : List Token}
    (h : (ofGoals g maxDepth goals last (taken ++ t :: ts)).moves.filterMap Move.token? = taken)
    (ts' : List Token) :
    ofGoals g maxDepth goals last (taken ++ t :: ts')
      =
    ofGoals g maxDepth goals last (taken ++ t :: ts) := by
  induction taken generalizing goals last with
  | nil =>
    simp only [List.nil_append, ofGoals] at h ⊢
    split at h
    · rfl
    · simp [Move.token?] at h
  | cons u us ih =>
    have hmeet := filterMap_token?_meet (g := g) maxDepth goals u
    simp only [List.cons_append, ofGoals] at h ⊢
    split at h
    · rfl
    · next moves next hm =>
      rw [hm] at hmeet
      have hus : (ofGoals g maxDepth next u.location (us ++ t :: ts)).moves.filterMap Move.token?
          = us := by
        simpa [Move.token?, hmeet] using h
      simp only [ih next u.location hus]

theorem ofTokens_eq_of_take_eq {tokens tokens' taken : List Token} {t : Token} {ts : List Token}
    (htaken : (ofTokens g maxDepth tokens).moves.filterMap Move.token? = taken)
    (htokens : tokens = taken ++ t :: ts)
    (h : tokens'.take (taken.length + 1) = tokens.take (taken.length + 1)) :
    ofTokens g maxDepth tokens' = ofTokens g maxDepth tokens := by
  have htake : tokens'.take (taken.length + 1) = taken ++ [t] := by
    rw [h, htokens, List.append_cons]
    apply List.take_left'
    simp
  have hsplit : tokens' = taken ++ t :: tokens'.drop (taken.length + 1) := by
    rw [List.append_cons, ← htake, List.take_append_drop]
  rw [htokens] at htaken ⊢
  rw [hsplit]
  apply ofGoals_eq_of_taken maxDepth _ _ htaken

end Run

namespace Parse

variable {maxDepth : Nat} {tokens : List Token} {c : Config} {p : Parse}

/--
Behind each of its moves, a parse has a lookahead among its tokens.
-/
theorem EndsIn.exists_lookahead (h : p.EndsIn maxDepth tokens c) {before after : List Move}
    (hm : p.history.map Prod.fst = before ++ after) :
    ∃ t, tokens[Move.position before]? = some t ∧ ∀ move ∈ after.head?, move.Reads t := by
  obtain ⟨mid, hbefore, hafter⟩ := h.steps.exists_between hm
  have hsound := hbefore.sound (Config.sound_start maxDepth tokens)
  have hshifted : mid.forest.tokens = before.filterMap Move.token? := hbefore.shifted
  have hlookahead {t : Token} {ts : List Token} (hrest : mid.rest = t :: ts) :
      tokens[Move.position before]? = some t := by
    rw [← hsound.tokens_eq, hshifted, hrest]
    simp [Move.position]
  cases after with
  | nil =>
    have hne : mid.rest ≠ [] := by
      intro hnil
      have hsuffix := hafter.rest_suffix
      rw [hnil, List.suffix_nil] at hsuffix
      apply h.ends.rest_ne_nil hsuffix
    obtain ⟨t, ts, hrest⟩ := List.exists_cons_of_ne_nil hne
    exact ⟨t, hlookahead hrest, by simp⟩
  | cons move after =>
    obtain ⟨t, ts, hrest, hreads⟩ := hafter.reads_head rfl
    exact ⟨t, hlookahead hrest, by simpa using hreads⟩

end Parse

namespace Session

/--
A parse looks at the token behind those that it has taken and at no later one: it never takes the
end of the input, so that its position stays within its tokens, and a session over any other tokens
that agree up to that token has the same outcome and the same log.
-/
theorem parse_eq_of_take_eq (tokens : List Token) (maxDepth : Nat) (log : Option StepLog) :
    let session (tokens : List Token) : Session := { ofTokens .standard tokens with maxDepth, log }
    let parse := Parse.ofTokens .standard maxDepth (completed tokens)
    let taken := parse.shifted.length
    (∀ before after, parse.history.map Prod.fst = before ++ after →
      Move.position before < (completed tokens).length
        ∧ ∀ move ∈ after.head?, ∃ t, (completed tokens)[Move.position before]? = some t
          ∧ move.Reads t)
    ∧ taken < (completed tokens).length
    ∧ (∀ other : Session, other.grammar = .standard → other.maxDepth = maxDepth →
        other.log.map StepLog.limit = log.map StepLog.limit →
        other.tokens.take (taken + 1) = (completed tokens).take (taken + 1) →
          other.parse.1 = (session tokens).parse.1
            ∧ other.parse.2.log = (session tokens).parse.2.log)
    ∧ ∀ before e rest rest', tokens = before ++ e :: rest → e.symbol = .eof →
        (session (before ++ e :: rest')).parse.1 = (session tokens).parse.1
          ∧ (session (before ++ e :: rest')).parse.2.log = (session tokens).parse.2.log := by
  intro session parse taken
  obtain ⟨c, hc⟩ := Parse.exists_endsIn maxDepth (exists_eof_completed tokens)
  obtain ⟨t, ts, next, htokens, hnext, hends⟩ := exists_advance maxDepth tokens
  have htaken : (Run.ofTokens .standard maxDepth (completed tokens)).moves.filterMap Move.token?
      = parse.shifted := by
    rw [hc.run_eq]
    rfl
  have agree (other : Session) (hgrammar : other.grammar = .standard)
      (hdepth : other.maxDepth = maxDepth)
      (hlimit : other.log.map StepLog.limit = log.map StepLog.limit)
      (htake : other.tokens.take (taken + 1) = (completed tokens).take (taken + 1)) :
      other.parse.1 = (session tokens).parse.1
        ∧ other.parse.2.log = (session tokens).parse.2.log := by
    apply parse_congr _ hlimit
    unfold finished Parse.ofTokens
    rw [hgrammar, hdepth, Run.ofTokens_eq_of_take_eq maxDepth htaken htokens htake]
    rfl
  refine ⟨?_, ?_, agree, ?_⟩
  · intro before after hm
    obtain ⟨t, ht, hreads⟩ := hc.exists_lookahead hm
    exact ⟨(List.getElem?_eq_some_iff.mp ht).1, fun move hmove => ⟨t, ht, hreads move hmove⟩⟩
  · rw [htokens]
    simp [taken, parse]
  · intro before e rest rest' hsplit he
    have hle : taken ≤ before.length := by
      apply Nat.le_of_not_lt
      intro hlt
      -- Otherwise the parse would have taken the end of the input.
      have hmem : e ∈ parse.shifted := by
        have heof := getElem?_completed hsplit
        rw [htokens, List.getElem?_append_left hlt] at heof
        exact List.mem_of_getElem? heof
      exact Run.ne_eof_of_advance hnext e hmem he
    apply agree (session (before ++ e :: rest')) rfl rfl rfl
    exact (take_completed rfl hle).trans (take_completed hsplit hle).symm

end Session

end StartEnd
