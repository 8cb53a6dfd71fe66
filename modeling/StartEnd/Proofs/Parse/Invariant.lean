import StartEnd.Proofs.Parse.Ensures
import StartEnd.Proofs.Token.WellFormed

/-!
This module contains the invariant of the steps of a parse: the goals that remain ensure that the
parse ends in the tree of a program, the trees so far are derivations of the tokens that have been
taken, and only a lookahead that ends the input meets the goal that asks for the end.
-/

namespace StartEnd

open StartEnd.Tree

namespace Forest

/--
The tokens of the trees from left to right.
-/
def tokens (forest : Forest) : List Token := forest.reverse.flatMap yield

/--
The forest of a finished parse is the tree of a program.
-/
def Complete (maxDepth : Nat) (forest : Forest) : Prop :=
  ∃ T : Tree, forest = [T] ∧ T.Fits .program maxDepth

/--
The rules that the trees are made with, each with the index at which its tree begins.
-/
def reductions (forest : Forest) : List (Rule × Nat) := postorderAll forest.reverse 0

@[simp]
theorem tokens_cons (T : Tree) (forest : Forest) :
    tokens (T :: forest) = tokens forest ++ T.yield := by
  simp [tokens]

@[simp]
theorem tokens_append (later earlier : Forest) :
    tokens (later ++ earlier) = tokens earlier ++ tokens later := by
  simp [tokens]

theorem tokens_split (forest : Forest) (n : Nat) :
    tokens (forest.drop n) ++ tokens (forest.take n) = tokens forest := by
  rw [← tokens_append, List.take_append_drop]

@[simp]
theorem tokens_reduce (forest : Forest) (r : Rule) : (forest.reduce r).tokens = forest.tokens := by
  rw [reduce, tokens_cons, yield_node, ← tokens_split forest r.arity]
  rfl

@[simp]
theorem reductions_leaf (t : Token) (forest : Forest) :
    reductions (.leaf t :: forest) = reductions forest := by
  simp [reductions, postorderAll_append, postorderAll, postorder]

theorem reductions_reduce (forest : Forest) (r : Rule) :
    (forest.reduce r).reductions
      =
    forest.reductions ++ [(r, (tokens (forest.drop r.arity)).length)] := by
  have hsplit : forest.reverse = (forest.drop r.arity).reverse ++ (forest.take r.arity).reverse := by
    rw [← List.reverse_append, List.take_append_drop]
  rw [reductions, reductions, hsplit, reduce, List.reverse_cons, postorderAll_append,
    postorderAll_append]
  simp [postorderAll, postorder, tokens]

end Forest

/--
The invariant of a parse of the given tokens.
-/
structure Config.Sound (maxDepth : Nat) (tokens : List Token) (c : Config) : Prop where
  ensures : Goal.EnsuresAll c.goals (Forest.Complete maxDepth) c.forest
  valid : ∀ T ∈ c.forest, T.Valid
  tokens_eq : c.forest.tokens ++ c.rest = tokens
  clean : ∀ t ∈ c.forest.tokens, t.fault? = none ∧ t.symbol ≠ .eof
  last : (∃ goals, c.goals = goals ++ [.take .eof, .reduce .program])
    ∨ ∃ t ts, c.rest = t :: ts ∧ t.symbol = .eof

theorem Config.sound_start (maxDepth : Nat) (tokens : List Token) :
    (Config.start maxDepth tokens).Sound maxDepth tokens where
  ensures := by
    intro start hstart
    refine ⟨[], _, rfl, .nil, fun body hbody => ?_⟩
    intro last hlast
    apply Goal.ensures_reduce .program maxDepth [.leaf start, body, .leaf last] _ (Nat.le_refl _)
      fun T hT => ⟨T, rfl, hT⟩
    exact .cons (fits_leaf _ hstart rfl) (.cons hbody (.cons (fits_leaf _ hlast rfl) .nil))
  valid := by simp [start]
  tokens_eq := rfl
  clean := by simp [start, Forest.tokens]
  last := .inl ⟨[.take .startKw, .statements 0 maxDepth, .take .endKw], rfl⟩

variable {g : Grammar} {maxDepth : Nat} {tokens : List Token} {c d : Config} {moves : List Move}

theorem Step.sound (h : Step g c moves d) (hc : c.Sound maxDepth tokens) :
    d.Sound maxDepth tokens := by
  have hlast := hc.last
  cases h with
  | reduce clean =>
    rename_i r goals refused forest t ts
    obtain ⟨hsymbols, hens⟩ := hc.ensures
    refine ⟨hens, ?_, ?_, ?_, ?_⟩
    · intro T hT
      obtain rfl | hT := List.mem_cons.mp hT
      · exact .node hsymbols fun T hT => hc.valid T (List.mem_of_mem_take (List.mem_reverse.mp hT))
      · apply hc.valid T (List.mem_of_mem_drop hT)
    · rw [Forest.tokens_reduce]
      apply hc.tokens_eq
    · rw [Forest.tokens_reduce]
      apply hc.clean
    · obtain ⟨before, hb⟩ | h := hlast
      · cases before with
        | nil => simp at hb
        | cons goal before =>
          obtain ⟨rfl, rfl⟩ := List.cons.inj hb
          exact .inl ⟨before, rfl⟩
      · exact .inr h
  | met clean ha hr =>
    rename_i goal goals refused forest t ts rules unmet
    refine ⟨?_, hc.valid, hc.tokens_eq, hc.clean, ?_⟩
    · rw [Goal.ensuresAll_append]
      apply Goal.ensuresAll_of_met ha hc.ensures
    · obtain ⟨before, hb⟩ | h := hlast
      · cases before with
        | nil =>
          -- The goal that asks for the end of the input is met by nothing else.
          obtain ⟨rfl, rfl⟩ := List.cons.inj hb
          refine .inr ⟨t, ts, rfl, ?_⟩
          simp only [Goal.answer] at ha
          grind
        | cons goal before =>
          obtain ⟨rfl, rfl⟩ := List.cons.inj hb
          exact .inl ⟨rules.map .reduce ++ before, by simp⟩
      · exact .inr h
  | shift clean ha =>
    rename_i goal goals refused forest t ts first
    have hne : t.symbol ≠ .eof := by
      intro heof
      rw [heof] at ha
      apply Goal.answer_eof g goal first ha
    refine ⟨?_, ?_, ?_, ?_, ?_⟩
    · rw [Goal.ensuresAll_append]
      apply Goal.ensuresAll_of_shift ha hc.ensures
    · intro T hT
      obtain rfl | hT := List.mem_cons.mp hT
      · exact .leaf (Token.isTerminal_of_wellFormed (Token.fault?_eq_none.mp clean).2)
      · apply hc.valid T hT
    · simpa using hc.tokens_eq
    · intro u hu
      rw [Forest.tokens_cons, yield_leaf, List.mem_append, List.mem_singleton] at hu
      obtain hu | rfl := hu
      · apply hc.clean u hu
      · exact ⟨clean, hne⟩
    · obtain ⟨before, hb⟩ | ⟨u, us, hu, heof⟩ := hlast
      · cases before with
        | nil =>
          obtain ⟨rfl, rfl⟩ := List.cons.inj hb
          simp only [Goal.answer] at ha
          grind
        | cons goal before =>
          obtain ⟨rfl, rfl⟩ := List.cons.inj hb
          exact .inl ⟨first ++ before, by simp⟩
      · obtain ⟨rfl, rfl⟩ := List.cons.inj hu
        exact absurd heof hne

theorem Steps.sound (h : Steps g c moves d) (hc : c.Sound maxDepth tokens) :
    d.Sound maxDepth tokens := by
  induction h with
  | refl => exact hc
  | head h _ ih => exact ih (h.sound hc)

theorem Steps.shifted (h : Steps g c moves d) :
    d.forest.tokens = c.forest.tokens ++ moves.filterMap Move.token? := by
  induction h with
  | refl => simp
  | head h _ ih =>
    rw [ih, List.filterMap_append]
    cases h <;> simp [Move.token?]

end StartEnd
