import Mathlib.Algebra.BigOperators.Group.List.Lemmas
import Mathlib.Algebra.GroupWithZero.Nat
import Mathlib.Data.List.DropRight
import StartEnd.Proofs.Trace.Log

/-!
This module contains the proof that a log is bounded. Whatever has been asked of it before, it holds
the first steps that it has been offered since it was cleared, and its statistics are those of the
steps that it holds.
-/

namespace StartEnd

/--
The rule that a step reduces.
-/
def TraceStep.rule? (step : TraceStep) : Option Rule :=
  match step.action with
  | .reduce r => some r
  | _ => none

namespace StepLog

/--
What may be asked of a log.
-/
inductive Call where
  | push (step : TraceStep)
  | clear
deriving DecidableEq

namespace Call

def step? : Call → Option TraceStep
  | .push step => some step
  | .clear => none

/--
The steps that have been offered, taken or not, since a log was cleared last.
-/
def offered (calls : List Call) : List TraceStep :=
  (calls.rtakeWhile (· ≠ .clear)).filterMap step?

theorem offered_push (calls : List Call) (step : TraceStep) :
    offered (calls ++ [.push step]) = offered calls ++ [step] := by
  rw [offered, List.rtakeWhile_concat_pos _ _ _ (by simp), List.filterMap_append]
  rfl

theorem offered_clear (calls : List Call) : offered (calls ++ [.clear]) = [] := by
  rw [offered, List.rtakeWhile_concat_neg _ _ _ (by simp)]
  rfl

end Call

def call (log : StepLog) : Call → StepLog
  | .push step => (log.push step).2
  | .clear => log.clear

def after (log : StepLog) (calls : List Call) : StepLog := calls.foldl call log

theorem limit_after (log : StepLog) (calls : List Call) : (log.after calls).limit = log.limit := by
  induction calls generalizing log with
  | nil => rfl
  | cons c calls ih =>
    have hcall : (log.call c).limit = log.limit := by
      cases c with
      | push step => exact log.limit_push step
      | clear => rfl
    exact (ih (log.call c)).trans hcall

/--
Whatever has been asked of a new log, it keeps what it has been offered since it was cleared last.
-/
theorem keeps_after (limit : Nat) (calls : List Call) :
    Keeps (after { limit } calls) (Call.offered calls) := by
  -- What has been offered is found from the end of the calls, hence the induction from there.
  induction calls using List.reverseRecOn with
  | nil => exact keeps_clear { limit }
  | append_singleton calls c ih =>
    have hafter : after { limit } (calls ++ [c]) = (after { limit } calls).call c := by
      simp [after]
    rw [hafter]
    cases c with
    | push step =>
      rw [Call.offered_push]
      exact ih.push step
    | clear =>
      rw [Call.offered_clear]
      exact keeps_clear _

/--
A log that holds as many steps as it may refuses any other, and one that holds fewer takes it.
-/
theorem Keeps.push_eq {log : StepLog} {offered : List TraceStep} (h : log.Keeps offered)
    (step : TraceStep) :
    log.push step
      =
    if log.steps.size = log.limit then
      (.error (.limitExceeded log.limit), { log with truncated := true })
    else
      (.ok (), { log with steps := log.steps.push step }) := by
  have hle : log.steps.size ≤ log.limit := by
    rw [h.size_eq]
    apply Nat.min_le_left
  have hfull : log.limit ≤ log.steps.size ↔ log.steps.size = log.limit := by
    omega
  unfold StepLog.push
  simp only [hfull]

section

variable (log : StepLog)

/--
The rules that are reduced in the steps that a log holds, each as often as it is.
-/
def reduced : List Rule := log.steps.toList.filterMap TraceStep.rule?

theorem count_eq (r : Rule) : log.count r = log.reduced.count r := by
  have hstep (step : TraceStep) :
      decide (step.action = .reduce r) = (step.rule?.map (· == r)).getD false := by
    unfold TraceStep.rule?
    split <;> simp_all [beq_eq_decide]
  rw [count, ← Array.countP_toList, reduced, List.count, List.countP_filterMap]
  congr 1
  funext step
  exact hstep step

theorem any_eq (r : Rule) :
    (log.steps.any fun step => step.action = .reduce r) = decide (0 < log.reduced.count r) := by
  rw [← count_eq, count, Bool.eq_iff_iff, decide_eq_true_iff, Array.countP_pos_iff,
    Array.any_eq_true']

theorem mem_rulesFired {r : Rule} : r ∈ log.rulesFired ↔ r ∈ log.reduced := by
  have hmem : r ∈ Rule.all := by
    cases r <;> decide
  rw [rulesFired, List.mem_filter, any_eq, decide_eq_true_iff, List.count_pos_iff]
  exact and_iff_right hmem

theorem nodup_rulesFired : log.rulesFired.Nodup := by
  have hall : Rule.all.Nodup := by
    decide
  exact hall.filter _

theorem rulesFired_perm : log.rulesFired.Perm log.reduced.dedup := by
  apply (List.perm_ext_iff_of_nodup log.nodup_rulesFired log.reduced.nodup_dedup).mpr
  intro r
  rw [mem_rulesFired, List.mem_dedup]

/--
The counts are listed for the rules that are reduced at all.
-/
theorem reductionCounts_eq :
    log.reductionCounts = log.rulesFired.map fun r => (r, log.reduced.count r) := by
  rw [rulesFired, ← List.filterMap_eq_filter, List.map_filterMap]
  apply List.filterMap_congr
  intro r _
  rw [count_eq, Option.guard, any_eq]
  by_cases h : log.reduced.count r = 0
  · simp [h]
  · simp [h, Nat.pos_of_ne_zero h]

theorem map_fst_reductionCounts : log.reductionCounts.map Prod.fst = log.rulesFired := by
  rw [reductionCounts_eq, List.map_map]
  exact List.map_id _

theorem mem_reductionCounts {r : Rule} {n : Nat} :
    (r, n) ∈ log.reductionCounts ↔ r ∈ log.reduced ∧ n = log.reduced.count r := by
  rw [reductionCounts_eq, List.mem_map]
  simp only [Prod.mk.injEq, ← log.mem_rulesFired]
  constructor
  · rintro ⟨q, hq, rfl, rfl⟩
    exact ⟨hq, rfl⟩
  · rintro ⟨hr, rfl⟩
    exact ⟨r, hr, rfl, rfl⟩

theorem sum_reductionCounts : (log.reductionCounts.map Prod.snd).sum = log.reduced.length := by
  rw [reductionCounts_eq, List.map_map, ← List.sum_map_count_dedup_eq_length log.reduced]
  exact (log.rulesFired_perm.map _).sum_eq

end

/--
A log that has been made with a limit never holds more steps. Whatever has been asked of it, it
holds the first steps of those that it has been offered since it was cleared last, and it knows
whether there were more. It refuses a step if and only if it holds as many as it may, and then they
stay what they are. Its counts are those of the rules that are reduced in the steps that it holds.
-/
theorem after_bounded (limit : Nat) (calls : List Call) :
    let log := after { limit } calls
    let offered := Call.offered calls
    log.limit = limit
      ∧ log.steps.toList = offered.take limit ∧ log.steps.size = min limit offered.length
      ∧ (log.truncated = true ↔ limit < offered.length)
      ∧ (∀ step, ((log.push step).1 = .error (.limitExceeded limit) ↔ log.steps.size = limit)
        ∧ ((log.push step).1 = .ok () ↔ log.steps.size < limit)
        ∧ (log.steps.size = limit → (log.push step).2.steps = log.steps))
      ∧ (∀ r n, (r, n) ∈ log.reductionCounts ↔ r ∈ log.reduced ∧ n = log.reduced.count r)
      ∧ (log.reductionCounts.map Prod.snd).sum = log.reduced.length
      ∧ log.reductionCounts.map Prod.fst = log.rulesFired ∧ log.rulesFired.Nodup := by
  intro log offered
  have hlimit : log.limit = limit := limit_after { limit } calls
  have hkeeps : log.Keeps offered := keeps_after limit calls
  have hsize := hkeeps.size_eq
  have hsteps := hkeeps.steps_eq
  have htruncated := hkeeps.truncated_iff
  rw [hlimit] at hsize hsteps htruncated
  refine ⟨hlimit, hsteps, hsize, htruncated, ?_, fun r n => log.mem_reductionCounts,
    log.sum_reductionCounts, log.map_fst_reductionCounts, log.nodup_rulesFired⟩
  intro step
  rw [hkeeps.push_eq step, hlimit]
  by_cases hfull : log.steps.size = limit
  · simp [hfull]
  · have hlt : log.steps.size < limit := by
      omega
    simp [hfull, hlt]

end StepLog

end StartEnd
