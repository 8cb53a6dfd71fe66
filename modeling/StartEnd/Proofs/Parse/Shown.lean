import StartEnd.Parse.Basic
import StartEnd.Proofs.Derivation.Value
import StartEnd.Proofs.Grammar.Standard
import StartEnd.Proofs.Parse.Invariant

/-!
This module contains the relation between a parse stack and the trees that its moves stand for. The
stack allows every move of a parse, and the program that is left on it is the one that its derivation
says.
-/

namespace StartEnd

/--
An entry shows a tree that begins at the given index of the tokens.
-/
structure Entry.Shows (tokens : List Token) (start : Nat) (e : Entry) (T : Tree) : Prop where
  symbol_eq : e.symbol = T.symbol
  standsFor : T.StandsFor e.node
  location_eq : tokens[start]?.map Token.location = some e.location

/--
The entries of a stack show the trees of a forest.
-/
inductive Stack.Shows (tokens : List Token) : Stack → Forest → Prop where
  | nil : Shows tokens [] []
  | cons {e : Entry} {T : Tree} {stack : Stack} {forest : Forest}
      (h : e.Shows tokens forest.tokens.length T) (hs : Shows tokens stack forest) :
    Shows tokens (e :: stack) (T :: forest)

namespace Stack

theorem reduce_eq {stack : Stack} {r : Rule} {node : Node}
    (hs : (stack.take r.arity).reverse.map Entry.symbol = r.rhs)
    (hn : r.reduce ((stack.take r.arity).reverse.map Entry.node) = .ok node) (lookahead : Location) :
    stack.reduce .standard r lookahead
      =
    .ok (⟨r.label, node, ((stack.take r.arity).reverse.head?.map Entry.location).getD lookahead⟩
      :: stack.drop r.arity) := by
  have hlabel : Stack.label .standard r = r.label := by
    cases r <;> rfl
  have hlen : (stack.take r.arity).reverse.length = r.arity := by
    rw [← List.length_map Entry.symbol, hs]
    rfl
  unfold Stack.reduce
  simp only [Grammar.standard_arity, Grammar.standard_rhs, hlen, hs, hn, hlabel, Nat.lt_irrefl,
    ne_eq, not_true_eq_false, if_false]

theorem reduce_eq_ok {stack next : Stack} {r : Rule} {lookahead : Location}
    (h : stack.reduce .standard r lookahead = .ok next) :
    (stack.take r.arity).reverse.map Entry.symbol = r.rhs
      ∧ ∃ node, r.reduce ((stack.take r.arity).reverse.map Entry.node) = .ok node := by
  unfold Stack.reduce at h
  simp only [Grammar.standard_arity, Grammar.standard_rhs] at h
  split at h
  · cases h
  · split at h
    · cases h
    · next hs =>
      refine ⟨by simpa using hs, ?_⟩
      cases hn : r.reduce ((stack.take r.arity).reverse.map Entry.node) with
      | error e =>
        rw [hn] at h
        cases h
      | ok node => exact ⟨node, rfl⟩

namespace Shows

variable {tokens : List Token} {stack : Stack} {forest : Forest}

theorem length_eq (h : stack.Shows tokens forest) : stack.length = forest.length := by
  induction h with
  | nil => rfl
  | cons _ _ ih => simp [ih]

theorem symbols_eq (h : stack.Shows tokens forest) :
    stack.map Entry.symbol = forest.map Tree.symbol := by
  induction h with
  | nil => rfl
  | cons h _ ih => simp [ih, h.symbol_eq]

theorem standsFor (h : stack.Shows tokens forest) :
    List.Forall₂ Tree.StandsFor (stack.map Entry.node) forest := by
  induction h with
  | nil => exact .nil
  | cons h _ ih => exact .cons h.standsFor ih

theorem drop (h : stack.Shows tokens forest) (n : Nat) :
    Shows tokens (stack.drop n) (forest.drop n) := by
  induction h generalizing n with
  | nil => simpa using Shows.nil
  | cons h hs ih =>
    cases n with
    | zero => exact .cons h hs
    | succ n => exact ih n

theorem location_eq (h : stack.Shows tokens forest) {n : Nat} (hn : n ≤ forest.length) {t : Token}
    {ts : List Token} (ht : forest.tokens ++ t :: ts = tokens) :
    tokens[(Forest.tokens (forest.drop n)).length]?.map Token.location
      =
    some (((stack.take n).reverse.head?.map Entry.location).getD t.location) := by
  cases n with
  | zero => simp [← ht]
  | succ n =>
    have hd := h.drop n
    have hlen := h.length_eq
    have hstack : n < stack.length := by omega
    rw [List.drop_eq_getElem_cons hstack, List.drop_eq_getElem_cons hn] at hd
    have hhead : (stack.take (n + 1)).reverse.head? = some stack[n] := by
      rw [List.head?_reverse, List.take_succ_eq_append_getElem hstack,
        List.getLast?_concat]
    cases hd with
    | cons he _ =>
      rw [he.location_eq, hhead]
      rfl

theorem reduce (h : stack.Shows tokens forest) {r : Rule}
    (hr : (forest.take r.arity).reverse.map Tree.symbol = r.rhs) {t : Token} {ts : List Token}
    (ht : forest.tokens ++ t :: ts = tokens) :
    ∃ next, stack.reduce .standard r t.location = .ok next
      ∧ Shows tokens next (forest.reduce r) := by
  have hn : r.arity ≤ forest.length := by
    have := congrArg List.length hr
    simp only [List.length_map, List.length_reverse, List.length_take] at this
    rw [Rule.arity]
    omega
  have hsymbols : (stack.take r.arity).reverse.map Entry.symbol = r.rhs := by
    rw [← hr, List.map_reverse, List.map_reverse, List.map_take, List.map_take, h.symbols_eq]
  have hnodes : List.Forall₂ Tree.StandsFor ((stack.take r.arity).reverse.map Entry.node)
      (forest.take r.arity).reverse := by
    rw [List.map_reverse, List.map_take]
    apply List.rel_reverse (List.forall₂_take _ h.standsFor)
  have hchildren := Tree.children_of_forall₂ hnodes
  rw [hr] at hchildren
  obtain ⟨node, hnode, hstands⟩ := r.reduces _ _ hchildren
  refine ⟨_, reduce_eq hsymbols hnode t.location, .cons ⟨rfl, hstands, ?_⟩ (h.drop r.arity)⟩
  apply h.location_eq hn ht

theorem shift (h : stack.Shows tokens forest) {t : Token} (clean : t.fault? = none)
    {ts : List Token} (ht : forest.tokens ++ t :: ts = tokens) :
    Shows tokens (stack.shift t) (.leaf t :: forest) := by
  refine .cons ⟨rfl, ?_, ?_⟩ h
  · apply Tree.standsFor_leaf (Token.fault?_eq_none.mp clean).2
  · simp [← ht]

end Shows

end Stack

variable {maxDepth : Nat} {tokens : List Token} {c d : Config} {moves : List Move} {stack : Stack}

theorem Step.shows (h : Step .standard c moves d) (hc : c.Sound maxDepth tokens)
    (hs : stack.Shows tokens c.forest) :
    ∃ next, moves.foldlM (Stack.apply .standard) stack = .ok next
      ∧ next.Shows tokens d.forest := by
  cases h with
  | reduce clean =>
    obtain ⟨next, hnext, hshows⟩ := hs.reduce hc.ensures.1 hc.tokens_eq
    exact ⟨next, by simp [Stack.apply, hnext], hshows⟩
  | met clean ha hr => exact ⟨stack, rfl, hs⟩
  | shift clean ha =>
    exact ⟨_, by simp [Stack.apply], hs.shift clean hc.tokens_eq⟩

theorem Steps.shows (h : Steps .standard c moves d) (hc : c.Sound maxDepth tokens)
    (hs : stack.Shows tokens c.forest) :
    ∃ last, moves.foldlM (Stack.apply .standard) stack = .ok last
      ∧ last.Shows tokens d.forest := by
  -- Each move keeps both the invariant of the parse and what the stack shows of it.
  induction h generalizing stack with
  | refl => exact ⟨stack, rfl, hs⟩
  | head h _ ih =>
    obtain ⟨next, hnext, hshows⟩ := h.shows hc hs
    obtain ⟨last, hlast, hshows⟩ := ih (h.sound hc) hshows
    refine ⟨last, ?_, hshows⟩
    rw [List.foldlM_append, hnext]
    exact hlast

theorem Stack.Shows.program {T : Tree} (h : stack.Shows tokens [T]) (hT : T.symbol = .program)
    (lookahead : Location) :
    ∃ p, T.program? = some p ∧ Parse.result lookahead stack = .ok p
      ∧ stack.map (fun e => (e.symbol, e.node)) = [(.program, .program p)] := by
  cases h with
  | cons he hs =>
    cases hs
    rename_i e
    have hstands := he.standsFor
    simp only [Tree.StandsFor, hT] at hstands
    obtain ⟨p, hp, hnode⟩ := hstands
    have hsymbol := he.symbol_eq
    refine ⟨p, hp, ?_, ?_⟩
    · obtain ⟨symbol, node, location⟩ := e
      simp only at hnode
      rw [hnode]
      rfl
    · simp [hnode, hsymbol, hT]

namespace Parse

variable {g : Grammar} {last : Stack}

theorem replay_of_ok (ending : Ending) (h : moves.foldlM (Stack.apply g) stack = .ok last) :
    let p := replay g ending stack moves
    p.ending = ending ∧ p.stack = last ∧ p.history.map Prod.fst = moves := by
  induction moves generalizing stack with
  | nil =>
    obtain rfl : stack = last := by simpa [pure, Except.pure] using h
    exact ⟨rfl, rfl, rfl⟩
  | cons move moves ih =>
    rw [List.foldlM_cons] at h
    unfold replay
    cases hm : stack.apply g move with
    | error d => simp [hm, bind, Except.bind] at h
    | ok next =>
      rw [hm] at h
      obtain ⟨hending, hstack, hhistory⟩ := ih h
      exact ⟨hending, hstack, congrArg (move :: ·) hhistory⟩

end Parse

end StartEnd
