import Mathlib.Logic.Function.Iterate
import Mathlib.Logic.Relation
import StartEnd.Grammar.Table
import StartEnd.Proofs.Parse.Expected

/-!
This module contains the proof that the nullable symbols and the FIRST sets of any productions are
exact: they are the symbols that derive the empty text, and the terminals with which the sentential
forms of a symbol begin.
-/

namespace StartEnd

namespace Production

/--
A step of a derivation: a left-hand side among the symbols is replaced by the right-hand side.
-/
def Rewrites (productions : List Production) (form next : List Symbol) : Prop :=
  ∃ p ∈ productions, ∃ before after, form = before ++ p.lhs :: after
    ∧ next = before ++ (p.rhs ++ after)

/--
The sentential forms that a list of symbols derives.
-/
def Derives (productions : List Production) : List Symbol → List Symbol → Prop :=
  Relation.ReflTransGen (Rewrites productions)

namespace Derives

variable {productions : List Production}

theorem production {p : Production} (h : p ∈ productions) : Derives productions [p.lhs] p.rhs :=
  .single ⟨p, h, [], [], rfl, by simp⟩

theorem append_right {form next : List Symbol} (h : Derives productions form next)
    (rest : List Symbol) : Derives productions (form ++ rest) (next ++ rest) := by
  induction h with
  | refl => exact .refl
  | tail _ hstep ih =>
    obtain ⟨p, hp, before, after, rfl, rfl⟩ := hstep
    exact ih.tail ⟨p, hp, before, after ++ rest, by simp, by simp⟩

/--
A symbol that no production defines stands for itself only.
-/
theorem eq_singleton {s : Symbol} (hs : ∀ p ∈ productions, p.lhs ≠ s) {form : List Symbol}
    (h : Derives productions [s] form) : form = [s] := by
  induction h with
  | refl => rfl
  | tail _ hstep ih =>
    subst ih
    obtain ⟨p, hp, before, after, heq, -⟩ := hstep
    have hmem : p.lhs ∈ [s] := by simp [heq]
    exact absurd (List.mem_singleton.mp hmem) (hs p hp)

end Derives

end Production

namespace Fact

/--
What a fact says about the derivations of a list of productions.
-/
def Holds (productions : List Production) : Fact → Prop
  | .nullable s => Production.Derives productions [s] []
  | .begins s t => t.isTerminal ∧ ∃ rest, Production.Derives productions [s] (t :: rest)

section Forms

variable (known : List Fact)

/--
All symbols of a form are known to be nullable.
-/
def Vanishes (form : List Symbol) : Prop := ∀ s ∈ form, .nullable s ∈ known

/--
A form is known to begin with a terminal, which may stand behind nullable symbols.
-/
def Starts (t : Symbol) : List Symbol → Prop
  | [] => False
  | s :: rest => .begins s t ∈ known ∨ .nullable s ∈ known ∧ Starts t rest

variable {known}

theorem vanishes_append {first rest : List Symbol} :
    Vanishes known (first ++ rest) ↔ Vanishes known first ∧ Vanishes known rest :=
  List.forall_mem_append

theorem vanishes_cons {s : Symbol} {rest : List Symbol} :
    Vanishes known (s :: rest) ↔ .nullable s ∈ known ∧ Vanishes known rest :=
  List.forall_mem_cons

theorem starts_append {t : Symbol} {first rest : List Symbol} :
    Starts known t (first ++ rest)
      ↔ Starts known t first ∨ Vanishes known first ∧ Starts known t rest := by
  induction first with
  | nil => simp [Starts, Vanishes]
  | cons s first ih =>
    simp only [List.cons_append, Starts, ih, vanishes_cons]
    tauto

theorem mem_firstOf {s t : Symbol} : t ∈ firstOf known s ↔ .begins s t ∈ known := by
  simp only [firstOf, List.mem_filterMap]
  constructor
  · rintro ⟨f, hf, h⟩
    cases f with
    | nullable u => simp at h
    | begins u v =>
      obtain ⟨rfl, rfl⟩ : u = s ∧ v = t := by simpa using h
      exact hf
  · intro h
    exact ⟨_, h, by simp⟩

end Forms

section Growth

variable {known : List Fact}

theorem mem_insert {f g : Fact} : f ∈ insert known g ↔ f ∈ known ∨ f = g := by
  unfold insert
  split
  · next hg =>
    refine ⟨.inl, ?_⟩
    rintro (hf | rfl)
    · exact hf
    · exact hg
  · rw [List.mem_cons, or_comm]

theorem mem_foldl_insert {facts : List Fact} {f : Fact} :
    f ∈ facts.foldl insert known ↔ f ∈ known ∨ f ∈ facts := by
  induction facts generalizing known with
  | nil => simp
  | cons g facts ih => rw [List.foldl_cons, ih, mem_insert, List.mem_cons, or_assoc]

theorem suffix_foldl_insert (facts known : List Fact) : known <:+ facts.foldl insert known := by
  induction facts generalizing known with
  | nil => apply List.suffix_refl
  | cons f facts ih =>
    apply List.IsSuffix.trans _ (ih (insert known f))
    unfold insert
    split
    · apply List.suffix_refl
    · apply List.suffix_cons

theorem nodup_foldl_insert (facts : List Fact) (h : known.Nodup) :
    (facts.foldl insert known).Nodup := by
  induction facts generalizing known with
  | nil => exact h
  | cons f facts ih =>
    apply ih
    unfold insert
    split
    · exact h
    · next hf => exact List.nodup_cons.mpr ⟨hf, h⟩

theorem suffix_go (p : Production) (known : List Fact) (form : List Symbol) :
    known <:+ use.go p known form := by
  fun_induction use.go p known form with
  | case1 known => exact suffix_foldl_insert [.nullable p.lhs] known
  | case2 known s rest grown _ ih => exact (suffix_foldl_insert _ known).trans ih
  | case3 known => apply suffix_foldl_insert

theorem nodup_go (p : Production) (form : List Symbol) (h : known.Nodup) :
    (use.go p known form).Nodup := by
  fun_induction use.go p known form with
  | case1 known => exact nodup_foldl_insert [.nullable p.lhs] h
  | case2 known s rest grown _ ih => exact ih (nodup_foldl_insert _ h)
  | case3 known => exact nodup_foldl_insert _ h

theorem suffix_round (productions : List Production) (known : List Fact) :
    known <:+ round productions known := by
  induction productions generalizing known with
  | nil => apply List.suffix_refl
  | cons p productions ih => exact (suffix_go p known p.rhs).trans (ih _)

theorem nodup_round (productions : List Production) (h : known.Nodup) :
    (round productions known).Nodup := by
  induction productions generalizing known with
  | nil => exact h
  | cons p productions ih => exact ih (nodup_go p p.rhs h)

/--
All facts that there may be.
-/
def everything : List Fact :=
  Symbol.all.map .nullable ++ Symbol.all.flatMap fun s => Symbol.all.map (.begins s)

theorem mem_everything (f : Fact) : f ∈ everything := by
  cases f <;> simp [everything, Symbol.mem_all]

theorem length_everything : everything.length = count := by
  simp [everything, count]

theorem length_le_count (h : known.Nodup) : known.length ≤ count := by
  rw [← length_everything]
  exact h.length_le_of_subset fun f _ => mem_everything f

theorem nodup_initial : initial.Nodup := by
  have hall : Symbol.all.Nodup := Symbol.pairwise_all.imp fun h heq => by simp [heq] at h
  apply (hall.filter _).map
  intro s t h
  simpa using h

/--
The rounds of a saturation that is bounded by the number of all facts end because nothing new
follows.
-/
theorem round_saturate (productions : List Production) {bound : Nat} (h : known.Nodup)
    (hbound : count ≤ known.length + bound) :
    round productions (saturate productions bound known) = saturate productions bound known := by
  induction bound generalizing known with
  | zero =>
    have hlength := length_le_count (nodup_round productions h)
    have hsuffix := suffix_round productions known
    have := hsuffix.length_le
    exact (hsuffix.eq_of_length (by omega)).symm
  | succ bound ih =>
    have hsuffix := suffix_round productions known
    have := hsuffix.length_le
    simp only [saturate]
    split
    · next hsame => exact (hsuffix.eq_of_length hsame.symm).symm
    · exact ih (nodup_round productions h) (by omega)

theorem round_all (productions : List Production) :
    round productions (all productions) = all productions := by
  apply round_saturate productions nodup_initial
  omega

theorem suffix_saturate (productions : List Production) (bound : Nat) (known : List Fact) :
    known <:+ saturate productions bound known := by
  induction bound generalizing known with
  | zero => apply List.suffix_refl
  | succ bound ih =>
    simp only [saturate]
    split
    · apply List.suffix_refl
    · exact (suffix_round productions known).trans (ih _)

theorem exists_iterate_saturate (productions : List Production) (bound : Nat)
    (known : List Fact) : ∃ n, saturate productions bound known = (round productions)^[n] known := by
  induction bound generalizing known with
  | zero => exact ⟨0, rfl⟩
  | succ bound ih =>
    simp only [saturate]
    split
    · exact ⟨0, rfl⟩
    · obtain ⟨n, hn⟩ := ih (round productions known)
      exact ⟨n + 1, hn⟩

end Growth

section Exact

variable {productions : List Production} {known : List Fact}

theorem holds_begins {lhs s : Symbol} {rest : List Symbol}
    (hform : Production.Derives productions [lhs] (s :: rest))
    (h : ∀ f ∈ known, f.Holds productions) :
    ∀ f ∈ ((firstOf known s).map (.begins lhs)).foldl insert known, f.Holds productions := by
  intro f hf
  obtain hf | hf := mem_foldl_insert.mp hf
  · exact h f hf
  · obtain ⟨t, ht, rfl⟩ := List.mem_map.mp hf
    obtain ⟨hterminal, more, hmore⟩ := h _ (mem_firstOf.mp ht)
    exact ⟨hterminal, more ++ rest, hform.trans (hmore.append_right rest)⟩

/--
Using a production is sound, also from the middle of its right-hand side on if what stands in front
of it vanishes.
-/
theorem holds_go {p : Production} {form : List Symbol}
    (hform : Production.Derives productions [p.lhs] form)
    (h : ∀ f ∈ known, f.Holds productions) :
    ∀ f ∈ use.go p known form, f.Holds productions := by
  fun_induction use.go p known form with
  | case1 known =>
    intro f hf
    obtain hf | rfl := mem_insert.mp hf
    · exact h f hf
    · exact hform
  | case2 known s rest grown hs ih =>
    have hgrown := holds_begins hform h
    exact ih (hform.trans ((hgrown _ hs).append_right rest)) hgrown
  | case3 known s rest grown => exact holds_begins hform h

theorem holds_round (h : ∀ f ∈ known, f.Holds productions) {used : List Production}
    (hused : ∀ p ∈ used, p ∈ productions) : ∀ f ∈ round used known, f.Holds productions := by
  induction used generalizing known with
  | nil => exact h
  | cons p used ih =>
    obtain ⟨hp, hused⟩ := List.forall_mem_cons.mp hused
    exact ih (holds_go (.production hp) h) hused

theorem holds_saturate (h : ∀ f ∈ known, f.Holds productions) (bound : Nat) :
    ∀ f ∈ saturate productions bound known, f.Holds productions := by
  induction bound generalizing known with
  | zero => exact h
  | succ bound ih =>
    simp only [saturate]
    split
    · exact h
    · exact ih (holds_round h fun _ hp => hp)

theorem mem_initial {f : Fact} : f ∈ initial ↔ ∃ t : Symbol, t.isTerminal ∧ f = .begins t t := by
  simp only [initial, List.mem_map, List.mem_filter, Symbol.mem_all, true_and]
  grind

theorem holds_initial : ∀ f ∈ initial, f.Holds productions := by
  intro f hf
  obtain ⟨t, ht, rfl⟩ := mem_initial.mp hf
  exact ⟨ht, [], .refl⟩

/--
Nothing new follows from what is known.
-/
def Closed (productions : List Production) (known : List Fact) : Prop :=
  ∀ p ∈ productions, (Vanishes known p.rhs → .nullable p.lhs ∈ known)
    ∧ ∀ t, Starts known t p.rhs → .begins p.lhs t ∈ known

theorem closed_of_go {p : Production} {form : List Symbol} (h : use.go p known form = known) :
    (Vanishes known form → .nullable p.lhs ∈ known)
      ∧ ∀ t, Starts known t form → .begins p.lhs t ∈ known := by
  induction form with
  | nil =>
    refine ⟨fun _ => ?_, fun t ht => ht.elim⟩
    rw [← h]
    exact mem_insert.mpr (.inr rfl)
  | cons s rest ih =>
    have hfirst := suffix_foldl_insert ((firstOf known s).map (.begins p.lhs)) known
    have hbegins (hsame : ((firstOf known s).map (.begins p.lhs)).foldl insert known = known)
        (t : Symbol) (ht : .begins s t ∈ known) : .begins p.lhs t ∈ known := by
      rw [← hsame]
      exact mem_foldl_insert.mpr (.inr (List.mem_map_of_mem (mem_firstOf.mpr ht)))
    simp only [use.go] at h
    split at h
    · next hs =>
      have hrest := suffix_go p (((firstOf known s).map (.begins p.lhs)).foldl insert known) rest
      rw [h] at hrest
      have hsame := hrest.eq_of_length_le hfirst.length_le
      rw [hsame] at h
      obtain ⟨hvanishes, hstarts⟩ := ih h
      refine ⟨fun hform => hvanishes (vanishes_cons.mp hform).2, ?_⟩
      rintro t (ht | ⟨-, ht⟩)
      · exact hbegins hsame t ht
      · exact hstarts t ht
    · next hs =>
      rw [h] at hs
      refine ⟨fun hform => absurd (vanishes_cons.mp hform).1 hs, ?_⟩
      rintro t (ht | ⟨ht, -⟩)
      · exact hbegins h t ht
      · exact absurd ht hs

/--
A round that adds nothing has used each production on all that is known.
-/
theorem closed_of_round (h : round productions known = known) : Closed productions known := by
  induction productions with
  | nil => simp [Closed]
  | cons p productions ih =>
    have hfirst : known <:+ use known p := suffix_go p known p.rhs
    have hrest := suffix_round productions (use known p)
    change round productions (use known p) = known at h
    rw [h] at hrest
    have huse : use known p = known := hrest.eq_of_length_le hfirst.length_le
    rw [huse] at h
    exact List.forall_mem_cons.mpr ⟨closed_of_go huse, ih h⟩

theorem Closed.vanishes_of_derives (hclosed : Closed productions known)
    {form next : List Symbol} (h : Production.Derives productions form next)
    (hnext : Vanishes known next) : Vanishes known form := by
  induction h using Relation.ReflTransGen.head_induction_on with
  | refl => exact hnext
  | head hstep _ ih =>
    obtain ⟨p, hp, before, after, rfl, rfl⟩ := hstep
    rw [vanishes_append, vanishes_append] at ih
    obtain ⟨hbefore, hrhs, hafter⟩ := ih
    rw [vanishes_append, vanishes_cons]
    exact ⟨hbefore, (hclosed p hp).1 hrhs, hafter⟩

theorem Closed.starts_of_derives (hclosed : Closed productions known) {t : Symbol}
    {form next : List Symbol} (h : Production.Derives productions form next)
    (hnext : Starts known t next) : Starts known t form := by
  induction h using Relation.ReflTransGen.head_induction_on with
  | refl => exact hnext
  | head hstep _ ih =>
    obtain ⟨p, hp, before, after, rfl, rfl⟩ := hstep
    obtain ⟨hlhs, hbegins⟩ := hclosed p hp
    rw [starts_append, starts_append] at ih
    rw [starts_append]
    -- The terminal stands in front of the right-hand side, in it, or behind it.
    obtain hbefore | ⟨hbefore, hrhs | ⟨hrhs, hafter⟩⟩ := ih
    · exact .inl hbefore
    · exact .inr ⟨hbefore, .inl (hbegins t hrhs)⟩
    · exact .inr ⟨hbefore, .inr ⟨hlhs hrhs, hafter⟩⟩

theorem mem_all_iff {f : Fact} : f ∈ all productions ↔ f.Holds productions := by
  have hclosed : Closed productions (all productions) := closed_of_round (round_all productions)
  constructor
  · apply holds_saturate holds_initial count
  · intro h
    cases f with
    | nullable s =>
      have hvanishes : Vanishes (all productions) [s] :=
        hclosed.vanishes_of_derives h (by simp [Vanishes])
      exact (vanishes_cons.mp hvanishes).1
    | begins s t =>
      obtain ⟨ht, rest, hrest⟩ := h
      have hinitial : begins t t ∈ all productions :=
        (suffix_saturate productions count initial).mem (mem_initial.mpr ⟨t, ht, rfl⟩)
      have hstarts : Starts (all productions) t [s] :=
        hclosed.starts_of_derives hrest (.inl hinitial)
      simpa [Starts] using hstarts

end Exact

end Fact

namespace Symbol

theorem lookup_map_all {β : Type} (f : Symbol → β) (s : Symbol) :
    (all.map fun u => (u, f u)).lookup s = some (f s) := by
  have key (symbols : List Symbol) (h : s ∈ symbols) :
      (symbols.map fun u => (u, f u)).lookup s = some (f s) := by
    induction symbols with
    | nil => simp at h
    | cons u symbols ih =>
      rw [List.map_cons, List.lookup_cons]
      by_cases hu : s = u
      · simp [hu]
      · have hne : (s == u) = false := by simpa using hu
        rw [hne]
        exact ih ((List.mem_cons.mp h).resolve_left hu)
  exact key all (mem_all s)

theorem eq_singleton_of_pairwise {symbols : List Symbol} {t : Symbol}
    (h : symbols.Pairwise fun s u => s.id < u.id) (hmem : ∀ s, s ∈ symbols ↔ s = t) :
    symbols = [t] := by
  cases symbols with
  | nil => simpa using hmem t
  | cons s symbols =>
    obtain rfl : s = t := (hmem s).mp List.mem_cons_self
    obtain ⟨hfirst, -⟩ := List.pairwise_cons.mp h
    suffices symbols = [] by rw [this]
    rw [List.eq_nil_iff_forall_not_mem]
    intro u hu
    have hlt := hfirst u hu
    obtain rfl := (hmem u).mp (List.mem_cons_of_mem _ hu)
    omega

end Symbol

namespace Grammar

open Production

variable (productions : List Production)

theorem isNullable_ofProductions (s : Symbol) :
    (ofProductions productions).isNullable s ↔ Derives productions [s] [] := by
  simp only [isNullable, ofProductions, FirstSets.ofProductions, List.mem_filter, Symbol.mem_all,
    true_and, decide_eq_true_eq]
  exact Fact.mem_all_iff

theorem first_ofProductions (s : Symbol) :
    (ofProductions productions).first s
      =
    Symbol.sorted (Fact.firstOf (Fact.all productions) s) := by
  simp only [first, ofProductions, FirstSets.ofProductions, FirstSets.firstOf]
  rw [Symbol.lookup_map_all]
  rfl

theorem mem_first_ofProductions (s t : Symbol) :
    t ∈ (ofProductions productions).first s
      ↔ t.isTerminal ∧ ∃ rest, Derives productions [s] (t :: rest) := by
  rw [first_ofProductions, Symbol.mem_sorted, Fact.mem_firstOf]
  exact Fact.mem_all_iff

/--
The nullable symbols and the FIRST sets are exact, whatever the productions are: the rounds come to
rest, a symbol is nullable if it derives the empty text, and its FIRST set holds, in the order of
their ids, the terminals with which its sentential forms begin.
-/
theorem ofProductions_exact (h : ∀ p ∈ productions, p.lhs.isNonterminal) :
    let g := ofProductions productions
    let facts := Fact.all productions
    (∃ n, facts = (Fact.round productions)^[n] Fact.initial)
      ∧ Fact.round productions facts = facts
      ∧ (∀ s, g.isNullable s ↔ Derives productions [s] [])
      ∧ (∀ s, (g.first s).Pairwise fun t u => t.id < u.id)
      ∧ (∀ s t, t ∈ g.first s ↔ t.isTerminal ∧ ∃ rest, Derives productions [s] (t :: rest))
      ∧ (∀ t, t.isTerminal → g.first t = [t])
      ∧ g.first .whitespace = [] := by
  intro g facts
  have hpairwise (s : Symbol) : (g.first s).Pairwise fun t u => t.id < u.id := by
    rw [first_ofProductions]
    apply Symbol.pairwise_sorted
  have hmem := mem_first_ofProductions productions
  have hundefined {s : Symbol} (hs : ¬ s.isNonterminal) : ∀ p ∈ productions, p.lhs ≠ s := by
    rintro p hp rfl
    exact hs (h p hp)
  refine ⟨Fact.exists_iterate_saturate productions _ _, Fact.round_all productions,
    isNullable_ofProductions productions, hpairwise, hmem, ?_, ?_⟩
  · intro t ht
    have hkind : ¬ t.isNonterminal := by simp_all [Symbol.isTerminal, Symbol.isNonterminal]
    apply Symbol.eq_singleton_of_pairwise (hpairwise t)
    intro u
    rw [hmem]
    constructor
    · rintro ⟨-, rest, hrest⟩
      exact (List.cons.inj (hrest.eq_singleton (hundefined hkind))).1
    · rintro rfl
      exact ⟨ht, [], .refl⟩
  · rw [List.eq_nil_iff_forall_not_mem]
    intro t ht
    obtain ⟨hterminal, rest, hrest⟩ := (hmem _ _).mp ht
    obtain ⟨rfl, -⟩ := List.cons.inj (hrest.eq_singleton (hundefined (by decide)))
    simp [Symbol.isTerminal, Symbol.kind] at hterminal

theorem ofProductions_exact_leftRecursive :
    let productions : List Production := [
      ⟨.expression, .expression, [.expression, .plus, .factor]⟩,
      ⟨.expression, .expression, [.factor]⟩,
      ⟨.factorIdentifier, .factor, [.empty, .identifier]⟩,
      ⟨.factorParens, .factor, [.empty]⟩,
      ⟨.empty, .empty, []⟩,
      ⟨.loop, .loop, [.loop]⟩]
    (∀ p ∈ productions, p.lhs.isNonterminal)
      ∧ Derives productions [.expression] []
      ∧ (∃ rest, Derives productions [.expression] (.plus :: rest))
      ∧ ¬ ∃ rest, Derives productions [.loop] (.identifier :: rest) := by
  intro productions
  have h : ∀ p ∈ productions, p.lhs.isNonterminal := by decide
  obtain ⟨-, -, hnullable, -, hfirst, -⟩ := ofProductions_exact productions h
  refine ⟨h, ?_, ?_, ?_⟩
  · rw [← hnullable]
    decide +kernel
  · have hplus : .plus ∈ (ofProductions productions).first .expression := by decide +kernel
    exact ((hfirst _ _).mp hplus).2
  · intro hloop
    have hidentifier : .identifier ∉ (ofProductions productions).first .loop := by decide +kernel
    exact hidentifier ((hfirst _ _).mpr ⟨rfl, hloop⟩)

end Grammar

end StartEnd
