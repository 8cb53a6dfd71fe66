import StartEnd.Session

/-!
This module contains what the outcome and the log of a session depend on: its finished parse, and of
the log that it is given only the limit.
-/

namespace StartEnd

namespace Session

theorem prefix_completed (tokens : List Token) : tokens <+: completed tokens := by
  unfold completed
  split
  · next hlast =>
    rw [List.getLast?_eq_none_iff.mp hlast]
    apply List.nil_prefix
  · split
    · apply List.prefix_refl
    · apply List.prefix_append

theorem length_completed_le (tokens : List Token) :
    (completed tokens).length ≤ tokens.length + 1 := by
  unfold completed
  split
  · simp
  · split <;> simp

theorem getElem?_completed {tokens before rest : List Token} {e : Token}
    (h : tokens = before ++ e :: rest) : (completed tokens)[before.length]? = some e := by
  obtain ⟨more, hmore⟩ := prefix_completed tokens
  rw [← hmore, h]
  simp

theorem take_completed {tokens before rest : List Token} {e : Token}
    (h : tokens = before ++ e :: rest) {n : Nat} (hn : n ≤ before.length) :
    (completed tokens).take (n + 1) = (before ++ [e]).take (n + 1) := by
  obtain ⟨more, hmore⟩ := prefix_completed tokens
  rw [← hmore, h, List.append_cons, List.append_assoc, List.take_append_of_le_length]
  simpa using hn

/--
The finished parse of a session, of which the log receives the steps.
-/
def finished (s : Session) : Parse := Parse.ofTokens s.grammar s.maxDepth s.tokens

theorem parse_congr {s s' : Session} (hparse : s'.finished = s.finished)
    (hlimit : s'.log.map StepLog.limit = s.log.map StepLog.limit) :
    s'.parse.1 = s.parse.1 ∧ s'.parse.2.log = s.parse.2.log := by
  refine ⟨congrArg Parse.outcome hparse, ?_⟩
  -- A log is cleared before the parse, so that only its limit matters.
  have hlog := congrArg (Option.map fun limit => StepLog.pushAll { limit } s.finished.steps) hlimit
  rw [Option.map_map, Option.map_map] at hlog
  show s'.log.map (fun log => log.clear.pushAll s'.finished.steps) = _
  rw [hparse]
  exact hlog

end Session

end StartEnd
