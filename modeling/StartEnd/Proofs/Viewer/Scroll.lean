import StartEnd.Viewer.Screen

/-!
This module contains the proof that the viewer always shows where it is: drawing scrolls the list of
steps to the current step and the source text to the current line, without a gap behind the last
item, and it moves nothing that has been drawn before.
-/

namespace StartEnd

namespace Scroll

/--
Whether a window that begins at an offset has the current item in it, and no room behind the last
item that items in front of it could take.
-/
structure Shows (visible total current offset : Nat) : Prop where
  le_current : offset ≤ current
  current_lt : current < offset + visible
  full : offset + visible ≤ max total visible

theorem visible_pos (height : Nat) : 0 < visible height := by
  unfold visible
  omega

section

variable {visible total current offset : Nat}

/--
Filling the last page does not move the current item out of the window.
-/
theorem shows_clamp (h : current < total) (hle : offset ≤ current)
    (hlt : current < offset + visible) :
    Shows visible total current (clamp offset total visible) := by
  unfold clamp
  split
  · exact ⟨by omega, by omega, by omega⟩
  · exact ⟨by omega, by omega, by omega⟩

theorem Shows.clamp_eq (h : Shows visible total current offset) :
    clamp offset total visible = offset := by
  have := h.full
  unfold clamp
  split <;> omega

theorem clamp_clamp (offset total visible : Nat) :
    clamp (clamp offset total visible) total visible = clamp offset total visible := by
  unfold clamp
  split <;> omega

theorem clamp_of_le (h : total ≤ offset + visible) :
    clamp offset total visible = total - visible := by
  unfold clamp
  split <;> omega

theorem follow_le (offset : Nat) (h : 0 < visible) : follow offset current visible ≤ current := by
  unfold follow
  split
  · omega
  split <;> omega

theorem lt_follow_add (offset : Nat) (h : 0 < visible) :
    current < follow offset current visible + visible := by
  unfold follow
  split
  · omega
  split <;> omega

theorem Shows.follow_eq (h : Shows visible total current offset) :
    follow offset current visible = offset := by
  have := h.le_current
  have := h.current_lt
  unfold follow
  rw [if_neg (by omega), if_neg (by omega)]

/--
The current item stands in the window as far below its upper end as it is behind the offset.
-/
theorem Shows.getElem?_window {α : Type} {height : Nat}
    (h : Shows (Scroll.visible height) total current offset) (items : List α) :
    (window height offset items)[current - offset]? = items[current]? := by
  have := h.le_current
  have := h.current_lt
  rw [window, List.getElem?_take_of_lt (by omega), List.getElem?_drop]
  congr 1
  omega

end

section

variable {height total current offset : Nat}

theorem shows_ofCurrent (height offset : Nat) (h : current < total) :
    Shows (visible height) total current (ofCurrent height total current offset) := by
  unfold ofCurrent
  rw [if_neg (by omega)]
  have hvisible := visible_pos height
  exact shows_clamp h (follow_le offset hvisible) (lt_follow_add offset hvisible)

theorem Shows.ofCurrent_eq (h : Shows (visible height) total current offset) :
    ofCurrent height total current offset = offset := by
  unfold ofCurrent
  split
  · rfl
  · rw [h.follow_eq, h.clamp_eq]

theorem ofList_ofList (height total offset : Nat) :
    ofList height total (ofList height total offset) = ofList height total offset := by
  unfold ofList
  split
  · rfl
  · apply clamp_clamp

theorem ofCurrent_ofCurrent (height total current offset : Nat) :
    ofCurrent height total current (ofCurrent height total current offset)
      =
    ofCurrent height total current offset := by
  have hvisible := visible_pos height
  by_cases h : current < total
  · exact (shows_ofCurrent height offset h).ofCurrent_eq
  · unfold ofCurrent
    split
    · rfl
    · -- A current item behind the last one pulls the window to the end.
      have hend (offset : Nat) : total ≤ follow offset current (visible height) + visible height :=
        Nat.le_trans (Nat.not_lt.mp h) (Nat.le_of_lt (lt_follow_add offset hvisible))
      rw [clamp_of_le (hend _), clamp_of_le (hend _)]

end

end Scroll

namespace SourceScroll

open Scroll

variable (s : SourceScroll) (height : Nat)

theorem pinnedRow_lt : s.pinnedRow height < visible height := by
  have := visible_pos height
  unfold pinnedRow
  omega

theorem row_adjust (total current : Nat) :
    (s.adjust height total current).row = some (s.pinnedRow height) := rfl

theorem offset_adjust {total current : Nat} (hpos : 0 < current) (hle : current ≤ total) :
    (s.adjust height total current).offset
      =
    clamp (current - 1 - s.pinnedRow height) total (visible height) := if_pos ⟨hpos, hle⟩

theorem pinnedRow_pinned (offset : Nat) :
    pinnedRow ⟨offset, some (s.pinnedRow height)⟩ height = s.pinnedRow height := by
  have := s.pinnedRow_lt height
  show min (s.pinnedRow height) _ = _
  omega

theorem adjust_adjust (total current : Nat) :
    (s.adjust height total current).adjust height total current
      =
    s.adjust height total current := by
  unfold adjust
  simp only [pinnedRow_pinned]
  by_cases h : 0 < current ∧ current ≤ total
  · simp only [if_pos h]
  · simp only [if_neg h]

theorem shows_adjust {total current : Nat} (hpos : 0 < current) (hle : current ≤ total) :
    Shows (visible height) total (current - 1) (s.adjust height total current).offset := by
  have hrow := s.pinnedRow_lt height
  rw [s.offset_adjust height hpos hle]
  exact shows_clamp (by omega) (by omega) (by omega)

/--
The current line is kept in the pinned row, unless the window is at the start or at the end.
-/
theorem current_adjust {total current : Nat} (hpos : 0 < current) (hle : current ≤ total) :
    let offset := (s.adjust height total current).offset
    current = offset + s.pinnedRow height + 1 ∨ offset = 0 ∨ offset + visible height = total := by
  intro offset
  have hoffset : offset = clamp (current - 1 - s.pinnedRow height) total (visible height) :=
    s.offset_adjust height hpos hle
  unfold clamp at hoffset
  split at hoffset <;> omega

end SourceScroll

namespace Viewer

open Scroll

theorem adjust_adjust (v : Viewer) (l : Layout) : (v.adjust l).adjust l = v.adjust l := by
  have hsource := v.sourceScroll.adjust_adjust l.source.height (Text.lines v.source).length
    v.currentLine
  have houtput := clamp_clamp v.outputOffset (Pane.outcomeLines v.outcome).length
    (visible l.output.height)
  have hstack := ofList_ofList l.stack.height v.currentStack.length v.stackOffset
  have htrace := ofCurrent_ofCurrent l.trace.height v.steps.length v.position v.traceOffset
  simp only [adjust, currentLine, currentStack, currentStep?] at hsource hstack ⊢
  rw [hsource, houtput, hstack, htrace]

/--
Drawing a list of steps or a source text shows the current one of them, whatever the height of the
pane, and however it has been scrolled before. No room is left behind the last item that others
could take; a list that is scrolled well is not moved, and a source text keeps its current line in
the pinned row unless that would leave room at an end. Drawing a viewer does both of this with the
panes of its layout. Drawing once more changes nothing.
-/
theorem shows_current :
    (∀ (height : Nat) (steps : List TraceStep) (current offset : Nat), current < steps.length →
      let drawn := ofCurrent height steps.length current offset
      Shows (visible height) steps.length current drawn
        ∧ (window height drawn steps)[current - drawn]? = steps[current]?
        ∧ (Shows (visible height) steps.length current offset → drawn = offset)
        ∧ ofCurrent height steps.length current drawn = drawn)
    ∧ (∀ (height : Nat) (source : String) (current : Nat) (s : SourceScroll),
      0 < current → current ≤ (Text.lines source).length →
        let lines := Text.lines source
        let drawn := s.adjust height lines.length current
        Shows (visible height) lines.length (current - 1) drawn.offset
          ∧ (window height drawn.offset lines)[current - 1 - drawn.offset]? = lines[current - 1]?
          ∧ drawn.row = some (s.pinnedRow height) ∧ s.pinnedRow height < visible height
          ∧ (current = drawn.offset + s.pinnedRow height + 1 ∨ drawn.offset = 0
            ∨ drawn.offset + visible height = lines.length)
          ∧ drawn.adjust height lines.length current = drawn)
    ∧ ∀ (v : Viewer) (l : Layout),
      let drawn := v.adjust l
      let lines := Text.lines v.source
      (v.position < v.steps.length →
        Shows (visible l.trace.height) v.steps.length v.position drawn.traceOffset)
        ∧ (0 < v.currentLine → v.currentLine ≤ lines.length →
          Shows (visible l.source.height) lines.length (v.currentLine - 1)
            drawn.sourceScroll.offset)
        ∧ drawn.adjust l = drawn := by
  refine ⟨?_, ?_, ?_⟩
  · intro height steps current offset h
    have hdrawn := shows_ofCurrent height offset h
    exact ⟨hdrawn, hdrawn.getElem?_window steps, fun hshows => hshows.ofCurrent_eq,
      hdrawn.ofCurrent_eq⟩
  · intro height source current s hpos hle lines drawn
    have hdrawn := s.shows_adjust height hpos hle
    exact ⟨hdrawn, hdrawn.getElem?_window lines, s.row_adjust height _ _, s.pinnedRow_lt height,
      s.current_adjust height hpos hle, s.adjust_adjust height lines.length current⟩
  · intro v l drawn lines
    refine ⟨?_, ?_, v.adjust_adjust l⟩
    · exact shows_ofCurrent l.trace.height v.traceOffset
    · exact v.sourceScroll.shows_adjust l.source.height

end Viewer

end StartEnd
