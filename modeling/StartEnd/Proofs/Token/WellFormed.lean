import StartEnd.Token.Basic

/-!
This module contains what well-formed tokens promise: their symbol is a terminal, and they have the
payload that it requires. These are the tokens that reach the grammar, unless they are errors.
-/

namespace StartEnd

namespace Token

theorem fault?_eq_none {t : Token} : t.fault? = none ↔ t.symbol ≠ .error ∧ t.wellFormed := by
  unfold fault?
  grind

theorem isTerminal_of_wellFormed {t : Token} (h : t.wellFormed) : t.symbol.isTerminal := by
  unfold wellFormed at h
  rw [Bool.and_eq_true] at h
  exact h.1

theorem exists_name {t : Token} (h : t.wellFormed) (hs : t.symbol = .identifier) :
    ∃ n, t.value = some (.name n) := by
  unfold wellFormed at h
  rw [hs] at h
  grind

theorem exists_number {t : Token} (h : t.wellFormed) (hs : t.symbol = .number) :
    (∃ n, t.value = some (.integer n)) ∨ ∃ x, t.value = some (.float x) := by
  unfold wellFormed at h
  rw [hs] at h
  grind

theorem exists_text {t : Token} (h : t.wellFormed) (hs : t.symbol = .stringLiteral) :
    ∃ s, t.value = some (.text s) := by
  unfold wellFormed at h
  rw [hs] at h
  grind

end Token

end StartEnd
