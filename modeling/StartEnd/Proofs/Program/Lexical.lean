import StartEnd.Proofs.Acceptance
import StartEnd.Proofs.Derivation.Reduced
import StartEnd.Proofs.Reduction.Reads
import StartEnd.Proofs.Token.Cut

/-!
This module contains the proof that parsed programs keep what their tokens promise: their names are
identifiers, and their integers are not negative.
-/

namespace StartEnd

open Lexeme

/--
The names that a program may declare and use.
-/
def IsName (name : String) : Prop := name.toList ∈ Class.word ∧ name ∉ keywords.map Prod.fst

section Lexical

def Literal.Lexical : Literal → Prop
  | .integer n => 0 ≤ n
  | _ => True

namespace Expr

mutual

/--
Whether all names and numbers of an expression may come from tokens.
-/
def Lexical : Expr → Prop
  | .literal value _ => value.Lexical
  | .var name _ => IsName name
  | .binary _ left right _ => left.Lexical ∧ right.Lexical
  | .unary _ operand _ => operand.Lexical
  | .call name args _ => IsName name ∧ AllLexical args

def AllLexical : List Expr → Prop
  | [] => True
  | e :: es => e.Lexical ∧ AllLexical es

end

end Expr

namespace Stmt

mutual

/--
Whether all names and numbers of a statement may come from tokens.
-/
def Lexical : Stmt → Prop
  | .varDecl name _ _ => IsName name
  | .assign target value _ => IsName target ∧ value.Lexical
  | .cond condition thenBranch elseBranch _ =>
    condition.Lexical ∧ AllLexical thenBranch ∧ ElseLexical elseBranch
  | .loop condition body _ => condition.Lexical ∧ AllLexical body
  | .funcDecl name params _ body _ =>
    IsName name ∧ (∀ p ∈ params, IsName p.name) ∧ AllLexical body
  | .call c => IsName c.name ∧ Expr.AllLexical c.args
  | .ret value _ => value.Lexical

def AllLexical : List Stmt → Prop
  | [] => True
  | s :: ss => s.Lexical ∧ AllLexical ss

def ElseLexical : Option (List Stmt) → Prop
  | none => True
  | some body => AllLexical body

end

end Stmt

def Program.Lexical (p : Program) : Prop := Stmt.AllLexical p.statements

def Token.Lexical (t : Token) : Prop :=
  (∀ name, t.value = some (.name name) → IsName name)
    ∧ ∀ n, t.value = some (.integer n) → 0 ≤ n

def Node.Lexical : Node → Prop
  | .token t => t.Lexical
  | .program p => p.Lexical
  | .statements list => Stmt.AllLexical list
  | .stmt s => s.Lexical
  | .call c => IsName c.name ∧ Expr.AllLexical c.args
  | .params list => ∀ p ∈ list, IsName p.name
  | .param p => IsName p.name
  | .args list => Expr.AllLexical list
  | .expr e => e.Lexical
  | _ => True

end Lexical

namespace Shape

def Lexical : (shape : Shape) → shape.Content → Prop
  | .name, content => IsName content.1
  | .number, content | .text, content => content.1.Lexical
  | .expr, e => e.Lexical
  | .stmt, s => s.Lexical
  | .stmtOrAbsent, s => ∀ head, s = some head → head.Lexical
  | .statements, list => Stmt.AllLexical list
  | .elseBranch, branch => Stmt.ElseLexical branch
  | .call, c => IsName c.name ∧ Expr.AllLexical c.args
  | .param, p => IsName p.name
  | .params, list => ∀ p ∈ list, IsName p.name
  | .args, list => Expr.AllLexical list
  | _, _ => True

def AllLexical : (shapes : List Shape) → Contents shapes → Prop
  | [], _ => True
  | shape :: shapes, (content, contents) => shape.Lexical content ∧ AllLexical shapes contents

theorem lexical_of_read? {shape : Shape} {n : Node} {content : shape.Content}
    (h : shape.read? n = some content) (hn : n.Lexical) : shape.Lexical content := by
  cases shape with
  | name | number | text =>
    cases n with
    | token t =>
      simp only [read?] at h
      split at h <;> cases h <;> simp_all [Lexical, Literal.Lexical, Node.Lexical, Token.Lexical]
    | _ => cases h
  | _ =>
    cases n <;> cases h <;>
      simp_all [Lexical, Node.Lexical, Stmt.AllLexical, Stmt.ElseLexical, Expr.AllLexical]

theorem Reads.allLexical {shapes : List Shape} {nodes : List Node} {contents : Contents shapes}
    (h : Reads shapes nodes contents) (hnodes : ∀ n ∈ nodes, n.Lexical) :
    AllLexical shapes contents := by
  induction h with
  | nil => trivial
  | cons h _ ih =>
    obtain ⟨hn, hnodes⟩ := List.forall_mem_cons.mp hnodes
    exact ⟨lexical_of_read? h hn, ih hnodes⟩

end Shape

namespace Rule

theorem lexical_value (r : Rule) (contents : Shape.Contents r.shapes)
    (h : Shape.AllLexical r.shapes contents) : (r.value contents).Lexical := by
  cases r with
  | statementList =>
    obtain ⟨_ | head, tail, _⟩ := contents
    · exact h.2.1
    · exact ⟨h.1 head rfl, h.2.1⟩
  | _ =>
    simp_all [Shape.AllLexical, Shape.Lexical, value, value.binary, Node.Lexical, Expr.Lexical,
      Expr.AllLexical, Stmt.Lexical, Call.toExpr, Program.Lexical, Literal.Lexical]

theorem lexical_reduce {r : Rule} {nodes : List Node} {n : Node} (h : r.reduce nodes = .ok n)
    (hnodes : ∀ n ∈ nodes, n.Lexical) : n.Lexical := by
  obtain ⟨contents, hreads, rfl⟩ := exists_reads h
  exact lexical_value r contents (hreads.allLexical hnodes)

end Rule

section Tokens

theorem Lexeme.Means.lexical {w : List Char} {symbol : Symbol} {value : Option TokenValue}
    (h : Means w symbol value) (lexeme : String) (l : Location) :
    Token.Lexical ⟨symbol, value, lexeme, l⟩ := by
  have hkeywords : ∀ row ∈ keywords,
      (∀ name, row.2.2 ≠ some (.name name)) ∧ ∀ n, row.2.2 ≠ some (.integer n) := by
    simp [keywords]
  cases h with
  | keyword h =>
    exact ⟨fun name hname => absurd hname ((hkeywords _ h).1 name),
      fun n hn => absurd hn ((hkeywords _ h).2 n)⟩
  | name hw h =>
    refine ⟨?_, by simp⟩
    rintro name ⟨⟩
    exact ⟨by simpa using hw, h⟩
  | integer =>
    refine ⟨by simp, ?_⟩
    rintro n ⟨⟩
    simp
  | _ => exact ⟨by simp, by simp⟩

namespace Token

theorem Cut.lexical {location : Location} {cs : List Char} {pieces : List Spaced}
    (h : Cut location cs pieces) : ∀ s ∈ pieces, s.token.Lexical := by
  induction h with
  | eof => simp [Token.Lexical, Token.eof]
  | @lexeme location gap c rest pieces _ _ _ ih =>
    obtain ⟨symbol, value, hmeans⟩ := (heads_extent c rest).exists_means
    refine List.forall_mem_cons.mpr ⟨?_, ih⟩
    rw [Lexeme.token, hmeans.classify_eq]
    exact hmeans.lexical _ _

theorem lexical_of_mem_scan {source : String} {t : Token} (h : t ∈ scan source) : t.Lexical := by
  obtain ⟨pieces, hcut, hpieces⟩ := exists_cut .start source.toList
  rw [scan, ← hpieces, List.mem_map] at h
  obtain ⟨s, hs, rfl⟩ := h
  exact hcut.lexical s hs

end Token

end Tokens

/--
The names of a parsed program are identifiers, and its integers are not negative.
-/
theorem Program.lexical_of_ofSource {source : String} {p : Program}
    (h : Program.ofSource source = .ok p) : p.Lexical := by
  obtain ⟨c, hc⟩ :=
    Parse.exists_endsIn defaultDepth (Session.exists_eof_completed (Token.scan source))
  have hok : (Parse.ofTokens .standard defaultDepth
      (Session.completed (Token.scan source))).outcome = .ok p := by
    show (Session.ofSource .standard source).parse.1 = .ok p
    unfold Program.ofSource at h
    cases houtcome : (Session.ofSource .standard source).parse.1 with
    | error ds => simp [houtcome, Except.mapError] at h
    | ok q => simpa [houtcome, Except.mapError] using h
  obtain ⟨T, t, ts, hT, htokens, heof, hp, hclean⟩ := hc.of_ok hok
  have hyield : T.yield = Session.input (Token.scan source) := by
    rw [← Session.input_completed, htokens,
      Session.input_append_eof (fun t ht => (hclean t ht).2) heof]
  refine Tree.Valid.of_program? (P := fun _ n => n.Lexical) ?_ hT.valid ?_ hT.symbol_eq hp
  · intro r children found n _ hfound hreduce
    apply Rule.lexical_reduce hreduce
    simpa using hfound
  · intro t ht
    refine ⟨(Token.fault?_eq_none.mp (hclean t ht).1).2, ?_⟩
    rw [hyield] at ht
    exact Token.lexical_of_mem_scan ((List.takeWhile_sublist _).subset ht)

end StartEnd
