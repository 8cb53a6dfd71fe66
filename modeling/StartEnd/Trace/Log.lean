import StartEnd.Trace.Step

/-!
This module contains logs of steps. A log holds a limited number of steps and refuses all that
follow, which it remembers.
-/

namespace StartEnd

/--
Why a log refuses a step.
-/
inductive LogError where
  | limitExceeded (limit : Nat)
deriving DecidableEq

def LogError.message : LogError → String
  | .limitExceeded limit => "parse trace limit exceeded: " ++ toString limit ++ " steps"

structure StepLog where
  limit : Nat
  steps : Array TraceStep := #[]
  -- Whether a step has been refused.
  truncated : Bool := false
deriving DecidableEq

namespace StepLog

def push (log : StepLog) (step : TraceStep) : Except LogError Unit × StepLog :=
  if log.limit ≤ log.steps.size then
    (.error (.limitExceeded log.limit), { log with truncated := true })
  else
    (.ok (), { log with steps := log.steps.push step })

def clear (log : StepLog) : StepLog := { limit := log.limit }

def pushAll (log : StepLog) (steps : List TraceStep) : StepLog :=
  steps.foldl (fun log step => (log.push step).2) log

def count (log : StepLog) (r : Rule) : Nat :=
  log.steps.countP fun step => step.action = .reduce r

def rulesFired (log : StepLog) : List Rule :=
  Rule.all.filter fun r => log.steps.any fun step => step.action = .reduce r

/--
The rules that are reduced, in the order of their ids, with the number of times.
-/
def reductionCounts (log : StepLog) : List (Rule × Nat) :=
  Rule.all.filterMap fun r => if log.count r = 0 then none else some (r, log.count r)

end StepLog

end StartEnd
