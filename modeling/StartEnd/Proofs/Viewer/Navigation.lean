import StartEnd.Proofs.Trace.Replay
import StartEnd.Viewer.Screen

/-!
This module contains the proof that one can go through the steps of a parse without getting lost.
Whatever keys are pressed and whenever the clock ticks, the viewer stays at a step, each key and
each tick takes it where it should, and it is at a halt only at the end of a parse that has failed.
-/

namespace StartEnd

namespace Key

/--
Whether a key is there to go to another step: the digits except zero, the left and the right key,
enter, and backspace.
-/
def Moves : Key → Prop
  | .char c => '1' ≤ c ∧ c ≤ '9'
  | .left => True
  | .right => True
  | .up => False
  | .down => False
  | .tab => False
  | .enter => True
  | .backspace => True
  | .other => False

/--
The number of steps that a character stands for: that of a digit except zero.
-/
def stepsOf (c : Char) : Nat := if '1' ≤ c ∧ c ≤ '9' then c.toNat - '0'.toNat else 0

/--
Where a key takes a viewer, given the index of the last step and its position.
-/
def target (last position : Nat) : Key → Nat
  | .char c => position + min (stepsOf c) (last - position)
  | .left => position - 1
  | .right => position + min 1 (last - position)
  | .up => position
  | .down => position
  | .tab => position
  | .enter => last
  | .backspace => 0
  | .other => position

theorem stepsOf_digitChar :
    ∀ n ≤ 9, 1 ≤ n → Moves (.char n.digitChar) ∧ stepsOf n.digitChar = n := by
  unfold Moves
  decide

variable {key : Key} {last position : Nat}

theorem target_le (key : Key) (h : position ≤ last) : key.target last position ≤ last := by
  cases key <;> simp only [target] <;> omega

theorem target_of_not_moves (h : ¬ key.Moves) : key.target last position = position := by
  cases key with
  | char c =>
    have hsteps : stepsOf c = 0 := if_neg h
    simp [target, hsteps]
  | left => exact absurd trivial h
  | right => exact absurd trivial h
  | enter => exact absurd trivial h
  | backspace => exact absurd trivial h
  | _ => rfl

end Key

namespace Viewer

/--
What happens to a viewer: a key is pressed, its clock ticks, or it is drawn on a screen.
-/
inductive Event where
  | press (now : Nat) (key : Key)
  | tick (now : Nat)
  | draw (l : Layout)

/--
A viewer that shows the first step.
-/
def opened (source : String) (steps : List TraceStep) (outcome : Outcome) (now : Nat) : Viewer :=
  { source, steps, outcome, advanced := now }

def handle (v : Viewer) : Event → Viewer
  | .press now key => v.press now key
  | .tick now => v.tick now
  | .draw l => v.adjust l

def after (v : Viewer) (events : List Event) : Viewer := events.foldl handle v

def last (v : Viewer) : Nat := v.steps.length - 1

/--
The number of steps behind the one that is shown.
-/
def remaining (v : Viewer) : Nat := v.last - v.position

variable (v : Viewer)

theorem remaining_pos_iff : 0 < v.remaining ↔ v.position + 1 < v.steps.length := by
  unfold remaining last
  omega

/--
Where a viewer is that has gone forward by a number of steps, or by those that there are.
-/
def onward (n : Nat) : Viewer := { v with position := v.position + min n v.remaining }

theorem remaining_onward (n : Nat) : (v.onward n).remaining = v.remaining - n := by
  show v.last - (v.position + min n v.remaining) = v.remaining - n
  unfold remaining
  omega

theorem onward_onward (m n : Nat) : (v.onward m).onward n = v.onward (m + n) := by
  have hposition : v.position + min m v.remaining + min n (v.onward m).remaining
      = v.position + min (m + n) v.remaining := by
    rw [remaining_onward]
    omega
  show { v with position := v.position + min m v.remaining + min n (v.onward m).remaining } = _
  rw [hposition]
  rfl

theorem forward_eq : v.forward = (decide (0 < v.remaining), v.onward 1) := by
  unfold forward
  split
  · next h =>
    have hpos := v.remaining_pos_iff.mpr h
    have hmin : min 1 v.remaining = 1 := Nat.min_eq_left hpos
    rw [onward, hmin, decide_eq_true hpos]
  · next h =>
    have hzero : v.remaining = 0 := Nat.eq_zero_of_not_pos (mt v.remaining_pos_iff.mp h)
    simp [onward, hzero]

/--
Going forward by a number of steps goes as far as there are steps, and counts them.
-/
theorem forwardBy_eq (n : Nat) : forwardBy n v = (min n v.remaining, v.onward n) := by
  induction n generalizing v with
  | zero => simp [forwardBy, onward]
  | succ n ih =>
    unfold forwardBy
    rw [forward_eq]
    by_cases h : 0 < v.remaining
    · have hmin : min n (v.remaining - 1) + 1 = min (n + 1) v.remaining := by
        omega
      simp only [decide_eq_true h, ih, remaining_onward, hmin, onward_onward, Nat.add_comm 1 n]
    · have hzero : v.remaining = 0 := Nat.eq_zero_of_not_pos h
      simp [onward, hzero]

theorem backward_eq :
    v.backward = (decide (0 < v.position), { v with position := v.position - 1 }) := by
  unfold backward
  split
  · next h => rw [decide_eq_true h]
  · next h =>
    have hsame : v.position - 1 = v.position := by
      omega
    rw [decide_eq_false h, hsame]

theorem press_digit (now : Nat) {c : Char} (h : '1' ≤ c ∧ c ≤ '9') :
    v.press now (.char c)
      =
    let n := Key.stepsOf c
    (v.pause.onward n).say ("Stepped forward " ++ toString (min n v.remaining) ++ " step(s)") := by
  have hquit : ¬ (c = 'q' ∨ c = 'Q') := by
    rintro (rfl | rfl) <;> revert h <;> decide
  have hsteps : Key.stepsOf c = c.toNat - '0'.toNat := if_pos h
  simp only [press]
  rw [if_neg hquit, if_pos h, forwardBy_eq, hsteps]
  rfl

theorem press_left (now : Nat) :
    v.press now .left
      =
    { v.pause with position := v.position - 1 }.say
      (if 0 < v.position then "Stepped backward" else "Already at the first step") := by
  have hposition : v.pause.position = v.position := rfl
  simp only [press, backward_eq, hposition]
  by_cases h : 0 < v.position <;> simp [h]

theorem press_right (now : Nat) :
    v.press now .right
      =
    (v.pause.onward 1).say
      (if 0 < v.remaining then "Stepped forward" else "Already at the last step") := by
  have hremaining : v.pause.remaining = v.remaining := rfl
  simp only [press, forward_eq, hremaining]
  by_cases h : 0 < v.remaining <;> simp [h]

/--
What a press of a key makes of a viewer.
-/
structure Pressed (key : Key) (v w : Viewer) : Prop where
  steps : w.steps = v.steps
  outcome : w.outcome = v.outcome
  position : w.position = key.target v.last v.position
  playing : key.Moves → w.playing = false

theorem Pressed.of_not_moves {key : Key} {v w : Viewer} (h : ¬ key.Moves)
    (hsteps : w.steps = v.steps) (houtcome : w.outcome = v.outcome)
    (hposition : w.position = v.position) : Pressed key v w where
  steps := hsteps
  outcome := houtcome
  position := hposition.trans (Key.target_of_not_moves h).symm
  playing := fun hmoves => absurd hmoves h

theorem pressed (now : Nat) (key : Key) : Pressed key v (v.press now key) := by
  cases key with
  | char c =>
    by_cases hdigit : '1' ≤ c ∧ c ≤ '9'
    · rw [v.press_digit now hdigit]
      exact ⟨rfl, rfl, rfl, fun _ => rfl⟩
    · simp only [press]
      rw [if_neg hdigit]
      split
      · exact .of_not_moves hdigit rfl rfl rfl
      split
      · unfold toggle
        split <;> exact .of_not_moves hdigit rfl rfl rfl
      · exact .of_not_moves hdigit rfl rfl rfl
  | left =>
    rw [press_left]
    exact ⟨rfl, rfl, rfl, fun _ => rfl⟩
  | right =>
    rw [press_right]
    exact ⟨rfl, rfl, rfl, fun _ => rfl⟩
  | up =>
    simp only [press, scrollUp]
    split <;> exact .of_not_moves id rfl rfl rfl
  | down =>
    simp only [press, scrollDown]
    split <;> exact .of_not_moves id rfl rfl rfl
  | tab => exact .of_not_moves id rfl rfl rfl
  | enter => exact ⟨rfl, rfl, rfl, fun _ => rfl⟩
  | backspace => exact ⟨rfl, rfl, rfl, fun _ => rfl⟩
  | other => exact .of_not_moves id rfl rfl rfl

/--
What the clock makes of a viewer.
-/
theorem tick_eq (now : Nat) :
    v.tick now
      =
    if v.playing = true ∧ 400 ≤ now - v.advanced then
      if 0 < v.remaining then { v.onward 1 with message := "Playing...", advanced := now }
      else { v with playing := false, message := "Playback complete", advanced := now }
    else v := by
  unfold tick
  simp only [Bool.and_eq_true, decide_eq_true_iff, forward_eq]
  by_cases h : 0 < v.remaining
  · simp [h]
  · have hzero : v.remaining = 0 := Nat.eq_zero_of_not_pos h
    simp [hzero, onward]

/--
Whether a viewer is at one of the given steps, if there is any, of a parse with the given outcome.
-/
structure Showing (steps : List TraceStep) (outcome : Outcome) (v : Viewer) : Prop where
  steps : v.steps = steps
  outcome : v.outcome = outcome
  position_le : v.position ≤ v.last

variable {v} {steps : List TraceStep} {outcome : Outcome}

theorem Showing.press (h : v.Showing steps outcome) (now : Nat) (key : Key) :
    (v.press now key).Showing steps outcome := by
  have hpressed := v.pressed now key
  refine ⟨hpressed.steps.trans h.steps, hpressed.outcome.trans h.outcome, ?_⟩
  have hlast : (v.press now key).last = v.last := by
    unfold last
    rw [hpressed.steps]
  rw [hpressed.position, hlast]
  exact key.target_le h.position_le

theorem Showing.tick (h : v.Showing steps outcome) (now : Nat) :
    (v.tick now).Showing steps outcome := by
  rw [tick_eq]
  split
  · split
    · refine ⟨h.steps, h.outcome, ?_⟩
      have hposition := h.position_le
      show v.position + min 1 v.remaining ≤ v.last
      unfold remaining
      omega
    · exact ⟨h.steps, h.outcome, h.position_le⟩
  · exact h

theorem Showing.handle (h : v.Showing steps outcome) (e : Event) :
    (v.handle e).Showing steps outcome := by
  cases e with
  | press now key => exact h.press now key
  | tick now => exact h.tick now
  | draw l => exact ⟨h.steps, h.outcome, h.position_le⟩

theorem Showing.after (h : v.Showing steps outcome) (events : List Event) :
    (v.after events).Showing steps outcome := by
  induction events generalizing v with
  | nil => exact h
  | cons e events ih => exact ih (h.handle e)

variable (v)

/--
Pressing the right key again and again goes forward one step each time, as long as there is one.
-/
theorem after_rights (times : List Nat) :
    let w := v.after (times.map (.press · .right))
    w.position = v.position + min times.length v.remaining ∧ (times ≠ [] → w.playing = false) := by
  induction times generalizing v with
  | nil => exact ⟨by simp [after], fun h => absurd rfl h⟩
  | cons now times ih =>
    let next := v.press now .right
    obtain ⟨hposition, hplaying⟩ := ih next
    have hpressed := v.pressed now .right
    have hfirst : next.position = v.position + min 1 v.remaining := hpressed.position
    have hremaining : next.remaining = v.remaining - 1 := by
      show next.steps.length - 1 - next.position = _
      rw [hpressed.steps, hfirst]
      unfold remaining last
      omega
    refine ⟨?_, fun _ => ?_⟩
    · show (next.after (times.map (.press · .right))).position = _
      rw [hposition, hfirst, hremaining, List.length_cons]
      omega
    · cases times with
      | nil => exact hpressed.playing trivial
      | cons later times => exact hplaying (List.cons_ne_nil later times)

/--
What one can rely on when one goes through the steps. The viewer shows a step if there is any. Each
key takes it to its target, which is another step only for the keys that are there for that, and
these stop the replay. As long as no step of the replay is due, the clock changes nothing. When one
is due, the replay goes one step forward and goes on, or it stops if there is no later step.
-/
structure Navigable (v : Viewer) : Prop where
  position_le : v.position ≤ v.steps.length - 1
  isSome_currentStep? : v.currentStep?.isSome = true ↔ v.steps ≠ []
  moves : ∀ now key, (v.press now key).position = key.target (v.steps.length - 1) v.position
  stays : ∀ now key, ¬ key.Moves → (v.press now key).position = v.position
  pauses : ∀ now key, key.Moves → (v.press now key).playing = false
  -- A digit does what as many presses of the right key do, and tells how far they went.
  digit : ∀ (now n : Nat) (times : List Nat), 1 ≤ n → n ≤ 9 → times.length = n →
    let pressed := v.press now (.char n.digitChar)
    let stepped := v.after (times.map (.press · .right))
    pressed.position = stepped.position ∧ pressed.playing = stepped.playing
      ∧ ∃ made, pressed.position = v.position + made
        ∧ pressed.message = "Stepped forward " ++ toString made ++ " step(s)"
  undoes : ∀ now later, (v.press now .right).position ≠ v.position →
    ((v.press now .right).press later .left).position = v.position
  waits : ∀ now, v.playing = false ∨ now - v.advanced < 400 → v.tick now = v
  advances : ∀ now, v.playing = true → 400 ≤ now - v.advanced →
    v.position + 1 < v.steps.length →
      (v.tick now).position = v.position + 1 ∧ (v.tick now).playing = true
  finishes : ∀ now, v.playing = true → 400 ≤ now - v.advanced →
    ¬ v.position + 1 < v.steps.length →
      (v.tick now).position = v.position ∧ (v.tick now).playing = false

variable {v}

theorem Showing.navigable (h : v.Showing steps outcome) : v.Navigable where
  position_le := h.position_le
  isSome_currentStep? := by
    have hle : v.position ≤ v.steps.length - 1 := h.position_le
    rw [currentStep?, isSome_getElem?, ← List.length_pos_iff]
    show v.position < v.steps.length ↔ _
    omega
  moves := fun now key => (v.pressed now key).position
  stays := by
    intro now key hkey
    rw [(v.pressed now key).position, Key.target_of_not_moves hkey]
  pauses := fun now key => (v.pressed now key).playing
  digit := by
    intro now n times hpos hle hlength pressed stepped
    obtain ⟨hmoves, hsteps⟩ := Key.stepsOf_digitChar n hle hpos
    have hpressed : pressed = (v.pause.onward n).say
        ("Stepped forward " ++ toString (min n v.remaining) ++ " step(s)") := by
      rw [← hsteps]
      exact v.press_digit now hmoves
    obtain ⟨hposition, hplaying⟩ := v.after_rights times
    have htimes : times ≠ [] := List.ne_nil_of_length_pos (by omega)
    rw [hlength] at hposition
    rw [hpressed]
    exact ⟨hposition.symm, (hplaying htimes).symm, min n v.remaining, rfl, rfl⟩
  undoes := by
    intro now later hmoved
    have hright := (v.pressed now .right).position
    rw [((v.press now .right).pressed later .left).position]
    simp only [Key.target] at hright ⊢
    omega
  waits := by
    intro now hwaits
    rw [tick_eq, if_neg]
    rintro ⟨hplaying, hdue⟩
    rcases hwaits with hpaused | hearly
    · rw [hpaused] at hplaying
      cases hplaying
    · omega
  advances := by
    intro now hplaying hdue hlater
    have hremaining := v.remaining_pos_iff.mpr hlater
    rw [tick_eq, if_pos ⟨hplaying, hdue⟩, if_pos hremaining]
    refine ⟨?_, hplaying⟩
    show v.position + min 1 v.remaining = v.position + 1
    omega
  finishes := by
    intro now hplaying hdue hlast
    rw [tick_eq, if_pos ⟨hplaying, hdue⟩, if_neg (mt v.remaining_pos_iff.mp hlast)]
    exact ⟨rfl, rfl⟩

theorem isAtHalt_iff :
    v.isAtHalt = true ↔ ∃ step kind, v.currentStep? = some step ∧ step.action = .halt kind := by
  unfold isAtHalt
  split
  · next hstep => exact iff_of_true rfl ⟨_, _, hstep, rfl⟩
  · next hother =>
    refine iff_of_false Bool.false_ne_true ?_
    rintro ⟨⟨action, stack, location⟩, kind, hstep, rfl⟩
    exact hother _ _ _ hstep

theorem Showing.isAtHalt_iff {tokens : List Token} {taken : Nat} (h : v.Showing steps outcome)
    (hsteps : TraceStep.Faithful tokens taken outcome steps) :
    v.isAtHalt = true ↔ v.position + 1 = v.steps.length ∧ ∃ ds, v.outcome = .error ds := by
  rw [Viewer.isAtHalt_iff, currentStep?, h.steps, h.outcome]
  exact hsteps.halts_iff

/--
Whatever happens to a viewer, one can go through its steps: it stays at one of them if there is any,
every key and every tick takes it where it should, and no other does. If the steps are those of a
parse whose log has not refused one, the viewer is at a halt if and only if it is at the last step
and the parse has failed.
-/
theorem after_navigable :
    (∀ (source : String) (steps : List TraceStep) (outcome : Outcome) (now : Nat)
      (events : List Event),
      let v := (opened source steps outcome now).after events
      v.steps = steps ∧ v.outcome = outcome ∧ v.Navigable)
    ∧ ∀ (source : String) (tokens : List Token) (maxDepth : Nat) (log : StepLog),
      let session : Session := { Session.ofTokens .standard tokens with maxDepth, log := some log }
      ∃ recorded, session.parse.2.log = some recorded ∧ (recorded.truncated = false →
        ∀ (now : Nat) (events : List Event),
          let v := (opened source recorded.steps.toList session.parse.1 now).after events
          (v.isAtHalt = true
            ↔
          v.position + 1 = v.steps.length ∧ ∃ ds, v.outcome = .error ds)) := by
  have hshowing (source : String) (steps : List TraceStep) (outcome : Outcome) (now : Nat)
      (events : List Event) :
      ((opened source steps outcome now).after events).Showing steps outcome := by
    have hopened : (opened source steps outcome now).Showing steps outcome :=
      ⟨rfl, rfl, Nat.zero_le _⟩
    exact hopened.after events
  refine ⟨?_, ?_⟩
  · intro source steps outcome now events v
    have hv := hshowing source steps outcome now events
    exact ⟨hv.steps, hv.outcome, hv.navigable⟩
  · intro source tokens maxDepth log session
    refine ⟨_, rfl, fun htruncated now events => ?_⟩
    have hsteps := StepLog.toList_pushAll_clear htruncated
    obtain ⟨c, hc⟩ := Parse.exists_endsIn maxDepth (Session.exists_eof_completed tokens)
    apply (hshowing source _ session.parse.1 now events).isAtHalt_iff
    rw [hsteps]
    exact hc.faithful

theorem after_navigable_halt :
    let symbols : List Symbol := [.startKw, .semi, .thenKw]
    let tokens : List Token := symbols.map fun s => ⟨s, none, s.name, .start⟩
    let session : Session :=
      { Session.ofTokens .standard tokens with maxDepth := 1, log := some ⟨4, #[], true⟩ }
    ∃ recorded, session.parse.2.log = some recorded ∧ recorded.truncated = false
      ∧ let v := opened "Start ; then" recorded.steps.toList session.parse.1 0
        v.isAtHalt = false ∧ (v.after [.press 0 .enter]).isAtHalt = true := by
  intro symbols tokens session
  obtain ⟨recorded, hlog, hhalt⟩ := after_navigable.2 "Start ; then" tokens 1 ⟨4, #[], true⟩
  have hrecorded : session.parse.2.log.map (fun log => (log.truncated, log.steps.size))
      = some (false, 4) := by
    decide +kernel
  rw [hlog] at hrecorded
  obtain ⟨htruncated, hsize⟩ := Prod.ext_iff.mp (Option.some.inj hrecorded)
  have hsteps : recorded.steps.toList.length = 4 := hsize
  have herror : ∃ ds, session.parse.1 = .error ds := ⟨_, rfl⟩
  refine ⟨recorded, hlog, htruncated, ?_, ?_⟩
  · rw [Bool.eq_false_iff]
    intro hfirst
    have hlast : 0 + 1 = recorded.steps.toList.length := ((hhalt htruncated 0 []).mp hfirst).1
    rw [hsteps] at hlast
    cases hlast
  · have hlast : recorded.steps.toList.length - 1 + 1 = recorded.steps.toList.length := by
      rw [hsteps]
    exact (hhalt htruncated 0 [.press 0 .enter]).mpr ⟨hlast, herror⟩

end Viewer

end StartEnd
