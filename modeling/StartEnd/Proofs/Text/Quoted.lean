import StartEnd.Text.Quoted

/-!
This module contains the proof that a quoted text tells what it quotes and where it ends, whatever
stands behind it.
-/

namespace StartEnd.Text

/--
Two texts are equal if they are made of characters of one kind, and what follows them is equal and
begins with none of these characters.
-/
theorem append_inj_of_head {p : Char → Bool} {w w' rest rest' : List Char} (hw : ∀ c ∈ w, p c)
    (hw' : ∀ c ∈ w', p c) (hrest : ∀ c ∈ rest.head?, p c = false)
    (hrest' : ∀ c ∈ rest'.head?, p c = false) (h : w ++ rest = w' ++ rest') :
    w = w' ∧ rest = rest' := by
  have key {w rest : List Char} (hw : ∀ c ∈ w, p c) (hrest : ∀ c ∈ rest.head?, p c = false) :
      (w ++ rest).takeWhile p = w := by
    rw [List.takeWhile_append_of_pos hw]
    cases rest with
    | nil => simp
    | cons c rest => simp [hrest c rfl]
  have hwords : w = w' := by
    rw [← key hw hrest, h, key hw' hrest']
  exact ⟨hwords, List.append_cancel_left (hwords ▸ h)⟩

theorem forall_head?_cons {p : Char → Bool} {c : Char} (h : p c = false) (rest : List Char) :
    ∀ d ∈ (c :: rest).head?, p d = false := by
  rintro d ⟨⟩
  exact h

section Digits

theorem digitChar_inj {m n : Nat} (hm : m < 16) (hn : n < 16) (h : m.digitChar = n.digitChar) :
    m = n := by
  have key : ∀ m < 16, ∀ n < 16, m.digitChar = n.digitChar → m = n := by decide
  exact key m hm n hn h

theorem toDigits_inj {m n : Nat} (h : Nat.toDigits 16 m = Nat.toDigits 16 n) : m = n := by
  induction m using Nat.strongRecOn generalizing n with
  | ind m ih =>
    rw [Nat.toDigits_eq_if (by decide), Nat.toDigits_eq_if (n := n) (by decide)] at h
    split at h <;> split at h
    · next hm hn =>
      exact digitChar_inj hm hn (List.singleton_inj.mp h)
    · have hinit := (List.append_inj' (show [] ++ [m.digitChar] = _ from h) rfl).1
      exact absurd hinit.symm Nat.toDigits_ne_nil
    · have hinit := (List.append_inj' (show _ = [] ++ [n.digitChar] from h) rfl).1
      exact absurd hinit Nat.toDigits_ne_nil
    · next hm hn =>
      obtain ⟨hinit, hlast⟩ := List.append_inj' h rfl
      have hdiv := ih (m / 16) (by omega) hinit
      have hmod := digitChar_inj (Nat.mod_lt m (by decide)) (Nat.mod_lt n (by decide))
        (List.singleton_inj.mp hlast)
      omega

theorem ne_brace_of_mem_toDigits {n : Nat} : ∀ c ∈ Nat.toDigits 16 n, c ≠ '\x7d' := by
  have hdigit (m : Nat) : m.digitChar ≠ '\x7d' := Nat.digitChar_ne _ rfl
  induction n using Nat.strongRecOn with
  | ind n ih =>
    rw [Nat.toDigits_eq_if (by decide)]
    split
    · simp [hdigit n]
    · rw [List.forall_mem_append]
      exact ⟨ih (n / 16) (by omega), by simp [hdigit]⟩

end Digits

/--
The characters that are written as a letter behind a backslash.
-/
def letters : List (Char × Char) := [
  ('\x00', '0'), ('\t', 't'), ('\r', 'r'), ('\n', 'n'), ('"', '"'), ('\\', '\\')
]

/--
The ways to write a character in a quoted text: as itself, as a letter or as its number.
-/
inductive Escapes : Char → List Char → Prop where
  | plain {c : Char} (hquote : c ≠ '"') (hbackslash : c ≠ '\\') : Escapes c [c]
  | letter {c e : Char} (h : (c, e) ∈ letters) : Escapes c ['\\', e]
  | number (c : Char) : Escapes c ('\\' :: 'u' :: '\x7b' :: (Nat.toDigits 16 c.toNat ++ ['\x7d']))

theorem escapes_escaped (c : Char) : Escapes c (escaped c) := by
  unfold escaped
  split
  all_goals try exact .letter (by decide)
  split
  · exact .number _
  · next hquote hbackslash _ => exact .plain hquote hbackslash

theorem Escapes.append_inj {c c' : Char} {w w' rest rest' : List Char} (h : Escapes c w)
    (h' : Escapes c' w') (heq : w ++ rest = w' ++ rest') : c = c' ∧ rest = rest' := by
  have hu : ∀ row ∈ letters, row.2 ≠ 'u' := by decide
  have hletters : ∀ row ∈ letters, ∀ row' ∈ letters, row.2 = row'.2 → row.1 = row'.1 := by decide
  cases h with
  | plain _ hbackslash =>
    cases h' with
    | plain => simpa using heq
    | letter | number => exact absurd (List.cons.inj heq).1 hbackslash
  | letter h =>
    cases h' with
    | plain _ hbackslash => exact absurd (List.cons.inj heq).1.symm hbackslash
    | letter h' =>
      obtain ⟨he, hrest⟩ := List.cons.inj (List.cons.inj heq).2
      exact ⟨hletters _ h _ h' he, hrest⟩
    | number => exact absurd (List.cons.inj (List.cons.inj heq).2).1 (hu _ h)
  | number =>
    cases h' with
    | plain _ hbackslash => exact absurd (List.cons.inj heq).1.symm hbackslash
    | letter h' => exact absurd (List.cons.inj (List.cons.inj heq).2).1.symm (hu _ h')
    | number =>
      simp only [List.cons_append, List.cons.injEq, true_and, List.append_assoc] at heq
      obtain ⟨hdigits, hrest⟩ := append_inj_of_head (p := (· ≠ '\x7d'))
        (by simpa using ne_brace_of_mem_toDigits) (by simpa using ne_brace_of_mem_toDigits)
        (forall_head?_cons (by decide) _) (forall_head?_cons (by decide) _) heq
      exact ⟨Char.toNat_inj.mp (toDigits_inj hdigits), (List.cons.inj hrest).2⟩

theorem Escapes.head?_ne {c : Char} {w : List Char} (h : Escapes c w) (rest : List Char) :
    (w ++ rest).head? ≠ some '"' := by
  cases h with
  | plain hquote => simpa using hquote
  | letter | number => simp

/--
A text that is written between quotes tells what it is, and where the closing quote stands.
-/
theorem escaped_append_inj {cs cs' rest rest' : List Char}
    (h : cs.flatMap escaped ++ '"' :: rest = cs'.flatMap escaped ++ '"' :: rest') :
    cs = cs' ∧ rest = rest' := by
  induction cs generalizing cs' with
  | nil =>
    cases cs' with
    | nil => simpa using h
    | cons c' cs' =>
      rw [List.flatMap_cons, List.append_assoc] at h
      exact absurd (congrArg List.head? h).symm ((escapes_escaped c').head?_ne _)
  | cons c cs ih =>
    rw [List.flatMap_cons, List.append_assoc] at h
    cases cs' with
    | nil => exact absurd (congrArg List.head? h) ((escapes_escaped c).head?_ne _)
    | cons c' cs' =>
      rw [List.flatMap_cons, List.append_assoc] at h
      obtain ⟨rfl, htail⟩ := (escapes_escaped c).append_inj (escapes_escaped c') h
      obtain ⟨rfl, hrest⟩ := ih htail
      exact ⟨rfl, hrest⟩

end StartEnd.Text
