import StartEnd.Proofs.Derivation.Value
import StartEnd.Proofs.Program.Unlocated
import StartEnd.Proofs.Program.Words

/-!
This module contains the derivations of tokens that spell given words. Words that are put together
as the right-hand side of a rule asks for have a derivation from its left-hand side, which says what
the parts say.
-/

namespace StartEnd

/--
Whether the tokens of a symbol may reach the grammar whatever payload they carry.
-/
def Symbol.isPlain (s : Symbol) : Bool :=
  s.isTerminal && s ∉ [.error, .identifier, .number, .stringLiteral]

theorem Token.fault?_eq_none_of_isPlain {t : Token} (h : t.symbol.isPlain) : t.fault? = none := by
  obtain ⟨s, value, lexeme, location⟩ := t
  rw [fault?_eq_none]
  cases s <;> first | contradiction | exact ⟨by simp, rfl⟩

/--
A symbol, and what is known of a tree of this symbol.
-/
structure Form where
  symbol : Symbol
  holds : Tree → Prop

namespace Form

def word (s : Symbol) : Form := ⟨s, fun T => ∃ t, T = .leaf t ∧ t.symbol = s⟩

def name (n : String) : Form := ⟨.identifier, fun T => ∃ t, T = .leaf t ∧ t.name? = some n⟩

/--
A tree of which the given value is read, up to what is to be forgotten.
-/
def reading {α β : Type} (s : Symbol) (read : Tree → Option α) (forget : α → β) (value : α) :
    Form :=
  ⟨s, fun T => ∃ found, read T = some found ∧ forget found = forget value⟩

abbrev expr (s : Symbol) (e : Expr) : Form := .reading s Tree.expr? Expr.unlocated e

/--
Words that have a derivation of the form, however they are spelled.
-/
def Written (f : Form) (words : List Word) : Prop :=
  ∀ tokens, List.Forall₂ Word.SpelledBy words tokens →
    ∃ T : Tree, T.Derives f.symbol tokens ∧ (∀ t ∈ tokens, t.fault? = none) ∧ f.holds T

/--
Words that have derivations of the forms one after the other.
-/
def AllWritten (forms : List Form) (words : List Word) : Prop :=
  ∀ tokens, List.Forall₂ Word.SpelledBy words tokens →
    ∃ trees : List Tree, trees.map Tree.symbol = forms.map symbol ∧ (∀ T ∈ trees, T.Valid)
      ∧ trees.flatMap Tree.yield = tokens ∧ (∀ t ∈ tokens, t.fault? = none)
      ∧ List.Forall₂ holds forms trees

theorem allWritten_nil : AllWritten [] [] := by
  rintro _ (_ | _)
  exact ⟨[], rfl, by simp, rfl, by simp, .nil⟩

variable {f : Form} {forms : List Form}

theorem allWritten_append {front back : List Word} (h : f.Written front)
    (hs : AllWritten forms back) : AllWritten (f :: forms) (front ++ back) := by
  intro tokens htokens
  obtain ⟨left, right, rfl, hleft, hright⟩ := exists_append_of_forall₂ htokens
  obtain ⟨T, hT, hclean, hholds⟩ := h left hleft
  obtain ⟨trees, hsymbols, hvalid, hyield, hcleans, htrees⟩ := hs right hright
  refine ⟨T :: trees, ?_, ?_, ?_, ?_, .cons hholds htrees⟩
  · rw [List.map_cons, List.map_cons, hT.symbol_eq, hsymbols]
  · exact List.forall_mem_cons.mpr ⟨hT.valid, hvalid⟩
  · rw [List.flatMap_cons, hT.yield_eq, hyield]
  · exact List.forall_mem_append.mpr ⟨hclean, hcleans⟩

theorem allWritten_cons {w : Word} {back : List Word} (h : f.Written [w])
    (hs : AllWritten forms back) : AllWritten (f :: forms) (w :: back) :=
  allWritten_append h hs

theorem allWritten_single {words : List Word} (h : f.Written words) : AllWritten [f] words := by
  simpa using allWritten_append h allWritten_nil

theorem written_node {r : Rule} {words : List Word} (h : AllWritten forms words)
    (hsymbols : forms.map symbol = r.rhs) (hlabel : r.label = f.symbol)
    (hholds : ∀ trees, List.Forall₂ holds forms trees → f.holds (.node r trees)) :
    f.Written words := by
  intro tokens htokens
  obtain ⟨trees, hs, hvalid, hyield, hclean, htrees⟩ := h tokens htokens
  refine ⟨.node r trees, ⟨.node (hs.trans hsymbols) hvalid, hlabel, ?_⟩, hclean, hholds trees htrees⟩
  rw [Tree.yield_node, hyield]

/--
A rule with a single symbol on its right-hand side hands on what is read of its child.
-/
theorem written_single {α β : Type} {read : Tree → Option α} {forget : α → β} {value : α} {r : Rule}
    {s : Symbol} {words : List Word} (h : (reading s read forget value).Written words)
    (hrhs : r.rhs = [s])
    (hread : ∀ T found, read T = some found → read (.node r [T]) = some found) :
    (reading r.label read forget value).Written words := by
  refine written_node (allWritten_single h) hrhs.symm rfl ?_
  rintro _ (_ | ⟨⟨found, hfound, hforget⟩, _ | _⟩)
  exact ⟨found, hread _ _ hfound, hforget⟩

theorem written_empty {r : Rule} (hrhs : r.rhs = [.empty]) (hlabel : r.label = f.symbol)
    (hholds : ∀ T, f.holds (.node r [T])) : f.Written [] := by
  have hempty : (Form.mk .empty fun _ => True).Written [] :=
    written_node (r := .empty) allWritten_nil rfl rfl fun _ _ => trivial
  refine written_node (allWritten_single hempty) hrhs.symm hlabel ?_
  rintro _ (_ | ⟨-, _ | _⟩)
  exact hholds _

/--
A token is a tree by itself if it may reach the grammar.
-/
theorem written_leaf {w : Word} (hfault : ∀ t, w.SpelledBy t → t.fault? = none)
    (hleaf : ∀ t, w.SpelledBy t → t.symbol = f.symbol ∧ f.holds (.leaf t)) : f.Written [w] := by
  rintro _ (_ | ⟨ht, _ | _⟩)
  rename_i t
  obtain ⟨hsymbol, hholds⟩ := hleaf t ht
  have hterminal := Token.isTerminal_of_wellFormed (Token.fault?_eq_none.mp (hfault t ht)).2
  exact ⟨.leaf t, ⟨.leaf hterminal, hsymbol, Tree.yield_leaf t⟩, by simpa using hfault t ht, hholds⟩

theorem written_word {s : Symbol} (h : s.isPlain) : (word s).Written [.symbol s] := by
  apply written_leaf
  · rintro t rfl
    exact Token.fault?_eq_none_of_isPlain h
  · exact fun t ht => ⟨ht, t, rfl, ht⟩

theorem allWritten_word {s : Symbol} {back : List Word} (h : s.isPlain)
    (hs : AllWritten forms back) : AllWritten (word s :: forms) (.symbol s :: back) :=
  allWritten_cons (written_word h) hs

theorem written_name (n : String) : (name n).Written [.name n] := by
  apply written_leaf
  · rintro ⟨s, value, lexeme, location⟩ ⟨rfl, hn⟩
    rw [Token.fault?_eq_none]
    obtain _ | ⟨n⟩ | _ | _ | _ | _ | _ := value <;> first | contradiction | exact ⟨by simp, rfl⟩
  · exact fun t ht => ⟨ht.1, t, rfl, ht.2⟩

end Form

end StartEnd
