import StartEnd.Proofs.Session

/-!
This module contains the proof that a log observes a parse and does not interfere with it: the log
holds the first steps of the parse, as many as its limit allows, and nothing else depends on it.
-/

namespace StartEnd

namespace StepLog

/--
What a log keeps of the steps that it has been offered since it was empty: the first of them up to
its limit, and whether there were more.
-/
structure Keeps (log : StepLog) (offered : List TraceStep) : Prop where
  steps_eq : log.steps.toList = offered.take log.limit
  truncated_iff : log.truncated = true ↔ log.limit < offered.length

theorem limit_push (log : StepLog) (step : TraceStep) : (log.push step).2.limit = log.limit := by
  unfold push
  split <;> rfl

theorem limit_pushAll (log : StepLog) (steps : List TraceStep) :
    (log.pushAll steps).limit = log.limit := by
  induction steps generalizing log with
  | nil => rfl
  | cons step steps ih => exact (ih (log.push step).2).trans (limit_push log step)

theorem keeps_clear (log : StepLog) : log.clear.Keeps [] where
  steps_eq := by simp [clear]
  truncated_iff := by simp [clear]

theorem Keeps.size_eq {log : StepLog} {offered : List TraceStep} (h : log.Keeps offered) :
    log.steps.size = min log.limit offered.length := by
  rw [← Array.length_toList, h.steps_eq, List.length_take]

theorem Keeps.push {log : StepLog} {offered : List TraceStep} (h : log.Keeps offered)
    (step : TraceStep) : (log.push step).2.Keeps (offered ++ [step]) := by
  have hsize := h.size_eq
  unfold StepLog.push
  split
  · next hfull =>
    have hlimit : log.limit ≤ offered.length := by omega
    refine ⟨?_, ?_⟩
    · rw [List.take_append_of_le_length hlimit]
      exact h.steps_eq
    · simp only [List.length_append, List.length_singleton, true_iff]
      omega
  · next hfull =>
    have hlimit : offered.length < log.limit := by omega
    refine ⟨?_, ?_⟩
    · rw [Array.toList_push, h.steps_eq, List.take_of_length_le (Nat.le_of_lt hlimit),
        List.take_of_length_le (by rw [List.length_append]; exact hlimit)]
    · show log.truncated = true ↔ log.limit < _
      rw [h.truncated_iff, List.length_append, List.length_singleton]
      omega

theorem Keeps.pushAll {log : StepLog} {offered : List TraceStep} (h : log.Keeps offered)
    (steps : List TraceStep) : (log.pushAll steps).Keeps (offered ++ steps) := by
  induction steps generalizing log offered with
  | nil => simpa [StepLog.pushAll] using h
  | cons step steps ih =>
    rw [List.append_cons]
    exact ih (h.push step)

/--
What a log holds after it has been cleared and offered the steps of a parse.
-/
theorem pushAll_clear (log : StepLog) (steps : List TraceStep) :
    let recorded := log.clear.pushAll steps
    recorded.limit = log.limit ∧ recorded.steps.toList = steps.take log.limit
      ∧ (recorded.truncated = true ↔ log.limit < steps.length) := by
  have hlimit : (log.clear.pushAll steps).limit = log.limit := limit_pushAll log.clear steps
  have hkeeps := log.keeps_clear.pushAll steps
  rw [List.nil_append] at hkeeps
  refine ⟨hlimit, ?_, ?_⟩
  · rw [hkeeps.steps_eq, hlimit]
  · rw [hkeeps.truncated_iff, hlimit]

/--
A log that has not refused a step of a parse holds them all.
-/
theorem toList_pushAll_clear {log : StepLog} {steps : List TraceStep}
    (h : (log.clear.pushAll steps).truncated = false) :
    (log.clear.pushAll steps).steps.toList = steps := by
  obtain ⟨-, hsteps, htruncated⟩ := log.pushAll_clear steps
  have hle : ¬ log.limit < steps.length := by
    rw [← htruncated, h]
    exact Bool.false_ne_true
  rw [hsteps, List.take_of_length_le (Nat.le_of_not_lt hle)]

end StepLog

namespace Session

/--
A session yields the same outcome with a log as without one, and all that a parse changes in it is
the log. Whatever the log held, it then holds the first steps of the parse up to its limit, and it
has refused a step if and only if there were more.
-/
theorem parse_withLog (s : Session) (log : StepLog) :
    let unlogged : Session := { s with log := none }
    let steps := s.finished.steps
    (s.withLog log).parse.1 = unlogged.parse.1
      ∧ ∃ recorded : StepLog, (s.withLog log).parse.2 = s.withLog recorded
        ∧ recorded.limit = log.limit ∧ recorded.steps.toList = steps.take log.limit
        ∧ (recorded.truncated = true ↔ log.limit < steps.length) := by
  intro unlogged steps
  exact ⟨rfl, log.clear.pushAll steps, rfl, log.pushAll_clear steps⟩

end Session

end StartEnd
