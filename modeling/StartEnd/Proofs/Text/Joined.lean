import StartEnd.Proofs.Text.Quoted

/-!
This module contains the proof that a list of items between parentheses can be read back from its
text, if the text of each item tells where it ends.
-/

namespace StartEnd.Text

/--
What may follow an item: the separator, the closing parenthesis or nothing.
-/
def Delimited (rest : List Char) : Prop := ∀ c ∈ rest.head?, c = ',' ∨ c = ')'

variable {α : Type} {text : α → String} {kind : α → Prop}

/--
The text of an item tells it from all items of a kind, and where it ends.
-/
def Tells (text : α → String) (kind : α → Prop) (a : α) : Prop :=
  ∀ b, kind b → ∀ rest rest', Delimited rest → Delimited rest' →
    (text a).toList ++ rest = (text b).toList ++ rest' → a = b ∧ rest = rest'

/--
The text of the items behind the first one.
-/
def joinedRest (texts : List String) : List Char :=
  texts.flatMap fun text => ',' :: ' ' :: text.toList

theorem toList_joined (first : String) (texts : List String) :
    (", ".intercalate (first :: texts)).toList = first.toList ++ joinedRest texts := by
  induction texts generalizing first with
  | nil => simp [joinedRest]
  | cons second texts ih =>
    rw [String.intercalate_cons_cons, String.toList_append, ih]
    simp [joinedRest]

theorem delimited_nil : Delimited [] := by
  simp [Delimited]

theorem delimited_joinedRest (texts : List String) (rest : List Char) :
    Delimited (joinedRest texts ++ ')' :: rest) := by
  cases texts <;> simp [Delimited, joinedRest]

variable {as bs : List α} {rest rest' : List Char}

theorem joinedRest_append_inj (has : ∀ a ∈ as, Tells text kind a) (hbs : ∀ b ∈ bs, kind b)
    (h : joinedRest (as.map text) ++ ')' :: rest = joinedRest (bs.map text) ++ ')' :: rest') :
    as = bs ∧ rest = rest' := by
  induction as generalizing bs with
  | nil =>
    cases bs with
    | nil => simpa [joinedRest] using h
    | cons b bs => simp [joinedRest] at h
  | cons a as ih =>
    cases bs with
    | nil => simp [joinedRest] at h
    | cons b bs =>
      obtain ⟨ha, has⟩ := List.forall_mem_cons.mp has
      obtain ⟨hb, hmore⟩ := List.forall_mem_cons.mp hbs
      have h : (text a).toList ++ (joinedRest (as.map text) ++ ')' :: rest)
          = (text b).toList ++ (joinedRest (bs.map text) ++ ')' :: rest') := by
        simpa [joinedRest] using h
      obtain ⟨rfl, htail⟩ := ha b hb _ _ (delimited_joinedRest _ _) (delimited_joinedRest _ _) h
      obtain ⟨rfl, hrest⟩ := ih has hmore htail
      exact ⟨rfl, hrest⟩

/--
Two lists of items are equal if their joined texts are equal up to the closing parentheses and what
follows them.
-/
theorem joined_append_inj (hkind : ∀ a, kind a → ∀ rest, ((text a).toList ++ rest).head? ≠ some ')')
    (has : ∀ a ∈ as, kind a ∧ Tells text kind a) (hbs : ∀ b ∈ bs, kind b)
    (h : (", ".intercalate (as.map text)).toList ++ ')' :: rest
      = (", ".intercalate (bs.map text)).toList ++ ')' :: rest') :
    as = bs ∧ rest = rest' := by
  cases as with
  | nil =>
    cases bs with
    | nil => simpa using h
    | cons b bs =>
      rw [List.map_cons, toList_joined, List.append_assoc] at h
      exact absurd (congrArg List.head? h).symm (hkind b (hbs b (by simp)) _)
  | cons a as =>
    obtain ⟨⟨hka, ha⟩, has⟩ := List.forall_mem_cons.mp has
    rw [List.map_cons, toList_joined, List.append_assoc] at h
    cases bs with
    | nil => exact absurd (congrArg List.head? h) (hkind a hka _)
    | cons b bs =>
      obtain ⟨hb, hmore⟩ := List.forall_mem_cons.mp hbs
      rw [List.map_cons, toList_joined, List.append_assoc] at h
      obtain ⟨rfl, htail⟩ := ha b hb _ _ (delimited_joinedRest _ _) (delimited_joinedRest _ _) h
      obtain ⟨rfl, hrest⟩ := joinedRest_append_inj (fun a h => (has a h).2) hmore htail
      exact ⟨rfl, hrest⟩

end StartEnd.Text
