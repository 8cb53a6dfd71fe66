import StartEnd.Proofs.Program.ExprText

/-!
This module contains the proof that the outline of a program tells the program up to its places and
to the notation of its operations: the indentation of a line tells where the line belongs, and the
line tells the node that it stands for.
-/

namespace StartEnd

open StartEnd.Text

section Lines

/--
Whether a text begins with a character that does not indent it.
-/
def Flush (text : String) : Prop := ∃ c, text.toList.head? = some c ∧ c ≠ ' '

theorem outlineLine_inj {depth depth' : Nat} {text text' : String} (htext : Flush text)
    (htext' : Flush text') (h : outlineLine depth text = outlineLine depth' text') :
    depth = depth' ∧ text = text' := by
  have hhead {text : String} (htext : Flush text) :
      ∀ c ∈ text.toList.head?, (decide (c = ' ')) = false := by
    intro c hc
    obtain ⟨d, hd, hne⟩ := htext
    rw [hd] at hc
    obtain rfl := Option.some.inj hc
    simpa using hne
  have heq := congrArg String.toList h
  simp only [outlineLine, String.toList_append, String.toList_ofList] at heq
  obtain ⟨hspaces, hrest⟩ := append_inj_of_head (p := (· = ' ')) (by simp) (by simp) (hhead htext)
    (hhead htext') heq
  have hlength := congrArg List.length hspaces
  simp only [List.length_replicate] at hlength
  exact ⟨by omega, String.toList_inj.mp hrest⟩

/--
Lines that do not begin with a line inside the given depth.
-/
def Below (depth : Nat) (lines : List String) : Prop :=
  ∀ line ∈ lines.head?, ∃ d text, d < depth ∧ Flush text ∧ line = outlineLine d text

theorem Below.mono {depth depth' : Nat} {lines : List String} (h : Below depth lines)
    (hd : depth ≤ depth') : Below depth' lines := by
  intro line hline
  obtain ⟨d, text, hlt, htext, rfl⟩ := h line hline
  exact ⟨d, text, by omega, htext, rfl⟩

theorem below_cons {depth d : Nat} {text : String} (hd : d < depth) (htext : Flush text)
    (lines : List String) : Below depth (outlineLine d text :: lines) := by
  rintro line ⟨⟩
  exact ⟨d, text, hd, htext, rfl⟩

theorem Below.ne_cons {depth d : Nat} {lines more : List String} (h : Below depth lines)
    (hd : depth ≤ d) {text : String} (htext : Flush text) :
    lines ≠ outlineLine d text :: more := by
  rintro rfl
  obtain ⟨d', text', hlt, htext', heq⟩ := h _ rfl
  have := (outlineLine_inj htext htext' heq).1
  omega

end Lines

namespace Stmt

/--
The line of a statement without what is inside it.
-/
def headline : Stmt → String
  | .varDecl name type l => "VarDecl " ++ (⟨name, type, l⟩ : Param).text
  | .assign target value _ => "Assign " ++ target ++ " := " ++ value.text
  | .cond condition _ _ _ => "If " ++ condition.text
  | .loop condition _ _ => "While " ++ condition.text
  | .funcDecl name params returnType _ _ =>
    "FuncDecl " ++ application name (params.map Param.text) ++ ": " ++ returnType.keyword
  | .call c => "Call " ++ c.text
  | .ret value _ => "Return " ++ value.text

/--
The lines of what is inside a statement.
-/
def inside (depth : Nat) : Stmt → List String
  | .cond _ thenBranch elseBranch _ =>
    outlineLine (depth + 1) "then"
      :: (outlineBlock (depth + 2) thenBranch ++ outlineElse depth elseBranch)
  | .loop _ body _ => outlineBlock (depth + 1) body
  | .funcDecl _ _ _ body _ => outlineBlock (depth + 1) body
  | _ => []

def initial : Stmt → Char
  | .varDecl _ _ _ => 'V'
  | .assign _ _ _ => 'A'
  | .cond _ _ _ _ => 'I'
  | .loop _ _ _ => 'W'
  | .funcDecl _ _ _ _ _ => 'F'
  | .call _ => 'C'
  | .ret _ _ => 'R'

theorem outline_eq (depth : Nat) (s : Stmt) :
    s.outline depth = outlineLine depth s.headline :: s.inside depth := by
  cases s <;> simp [outline, headline, inside, Param.text, String.append_assoc]

theorem head?_headline (s : Stmt) : s.headline.toList.head? = some s.initial := by
  cases s <;> simp [headline, initial]

theorem flush_headline (s : Stmt) : Flush s.headline :=
  ⟨_, s.head?_headline, by cases s <;> simp [initial]⟩

theorem initial_eq_of_headline_eq {s s' : Stmt} (h : s.headline = s'.headline) :
    s.initial = s'.initial := by
  have := s.head?_headline
  rw [h, s'.head?_headline] at this
  exact (Option.some.inj this).symm

/--
The lines of a statement tell it from all legible statements, and where they end.
-/
def Tells (s : Stmt) : Prop :=
  ∀ s', s'.Legible → ∀ depth rest rest', Below (depth + 1) rest → Below (depth + 1) rest' →
    s.outline depth ++ rest = s'.outline depth ++ rest' → s = s' ∧ rest = rest'

theorem outlineBlock_append_inj {list list' : List Stmt} (h : ∀ s ∈ list, s.Tells)
    (h' : ∀ s ∈ list', s.Legible) {depth : Nat} {rest rest' : List String}
    (hrest : Below depth rest) (hrest' : Below depth rest')
    (heq : outlineBlock depth list ++ rest = outlineBlock depth list' ++ rest') :
    list = list' ∧ rest = rest' := by
  have hbelow {rest : List String} (hrest : Below depth rest) (list : List Stmt) :
      Below (depth + 1) (outlineBlock depth list ++ rest) := by
    cases list with
    | nil => exact hrest.mono (Nat.le_succ _)
    | cons s list =>
      rw [outlineBlock, outline_eq]
      exact below_cons (Nat.lt_succ_self _) s.flush_headline _
  induction list generalizing list' with
  | nil =>
    cases list' with
    | nil => exact ⟨rfl, heq⟩
    | cons s' list' =>
      rw [outlineBlock, outlineBlock, outline_eq] at heq
      exact absurd heq (hrest.ne_cons (Nat.le_refl _) s'.flush_headline)
  | cons s list ih =>
    rw [outlineBlock, List.append_assoc] at heq
    cases list' with
    | nil =>
      rw [outlineBlock, outline_eq] at heq
      exact absurd heq.symm (hrest'.ne_cons (Nat.le_refl _) s.flush_headline)
    | cons s' list' =>
      rw [outlineBlock, List.append_assoc] at heq
      obtain ⟨hs, hlist⟩ := List.forall_mem_cons.mp h
      obtain ⟨hs', hlist'⟩ := List.forall_mem_cons.mp h'
      obtain ⟨rfl, htail⟩ := hs s' hs' depth _ _ (hbelow hrest list) (hbelow hrest' list') heq
      obtain ⟨rfl, hrest⟩ := ih hlist hlist' htail
      exact ⟨rfl, hrest⟩

theorem flush_else : Flush "else" := ⟨'e', rfl, by decide⟩

theorem below_outlineElse {depth : Nat} {rest : List String} (hrest : Below (depth + 1) rest)
    (branch : Option (List Stmt)) : Below (depth + 2) (outlineElse depth branch ++ rest) := by
  cases branch with
  | none => exact hrest.mono (Nat.le_succ _)
  | some body => exact below_cons (Nat.lt_succ_self _) flush_else _

theorem outlineElse_append_inj {branch branch' : Option (List Stmt)}
    (h : ∀ body, branch = some body → ∀ s ∈ body, s.Tells)
    (h' : ∀ body, branch' = some body → ∀ s ∈ body, s.Legible) {depth : Nat}
    {rest rest' : List String} (hrest : Below (depth + 1) rest) (hrest' : Below (depth + 1) rest')
    (heq : outlineElse depth branch ++ rest = outlineElse depth branch' ++ rest') :
    branch = branch' ∧ rest = rest' := by
  cases branch with
  | none =>
    cases branch' with
    | none => exact ⟨rfl, heq⟩
    | some body' => exact absurd heq (hrest.ne_cons (Nat.le_refl _) flush_else)
  | some body =>
    cases branch' with
    | none => exact absurd heq.symm (hrest'.ne_cons (Nat.le_refl _) flush_else)
    | some body' =>
      obtain ⟨rfl, hrest⟩ := outlineBlock_append_inj (h body rfl) (h' body' rfl)
        (hrest.mono (Nat.le_succ _)) (hrest'.mono (Nat.le_succ _)) (List.cons.inj heq).2
      exact ⟨rfl, hrest⟩

namespace Legible

variable {s : Stmt}

/--
The lines of a legible statement tell it, and where they end.
-/
theorem tells (h : s.Legible) : s.Tells := by
  have hlines {s s' : Stmt} {depth : Nat} {rest rest' : List String}
      (heq : s.outline depth ++ rest = s'.outline depth ++ rest') :
      s.headline = s'.headline ∧ s.inside depth ++ rest = s'.inside depth ++ rest' := by
    rw [outline_eq, outline_eq] at heq
    obtain ⟨hline, htail⟩ := List.cons.inj heq
    exact ⟨(outlineLine_inj s.flush_headline s'.flush_headline hline).2, htail⟩
  induction h with
  | @varDecl name hname type =>
    intro s' h' depth rest rest' hrest hrest' heq
    obtain ⟨hline, htail⟩ := hlines heq
    cases h' with
    | @varDecl name' hname' type' =>
      have hparams := Param.Legible.text_inj (p := ⟨name, type, .start⟩) ⟨hname, rfl⟩
        (q := ⟨name', type', .start⟩) ⟨hname', rfl⟩ (by simpa [headline] using hline)
      obtain ⟨rfl, rfl, -⟩ := Param.mk.inj hparams
      exact ⟨rfl, htail⟩
    | _ => cases initial_eq_of_headline_eq hline
  | @assign target value htarget hvalue =>
    intro s' h' depth rest rest' hrest hrest' heq
    obtain ⟨hline, htail⟩ := hlines heq
    cases h' with
    | @assign target' value' htarget' hvalue' =>
      have hchars : target.toList ++ ' ' :: (":= ".toList ++ value.text.toList)
          = target'.toList ++ ' ' :: (":= ".toList ++ value'.text.toList) := by
        simpa [headline] using congrArg String.toList hline
      obtain ⟨htargets, hvalues⟩ := append_inj_of_head htarget.isWordChar htarget'.isWordChar
        (forall_head?_cons rfl _) (forall_head?_cons rfl _) hchars
      obtain rfl := String.toList_inj.mp htargets
      obtain rfl := hvalue.text_inj hvalue' (String.toList_inj.mp (by simpa using hvalues))
      exact ⟨rfl, htail⟩
    | _ => cases initial_eq_of_headline_eq hline
  | @cond _ thenBranch elseBranch hcondition hthen helse ihthen ihelse =>
    intro s' h' depth rest rest' hrest hrest' heq
    obtain ⟨hline, htail⟩ := hlines heq
    cases h' with
    | cond hcondition' hthen' helse' =>
      obtain rfl := hcondition.text_inj hcondition' (by simpa [headline] using hline)
      simp only [inside, List.cons_append, List.append_assoc] at htail
      obtain ⟨rfl, hbranch⟩ := outlineBlock_append_inj ihthen hthen'
        (below_outlineElse hrest _) (below_outlineElse hrest' _) (List.cons.inj htail).2
      obtain ⟨rfl, hrest⟩ := outlineElse_append_inj ihelse helse' hrest hrest' hbranch
      exact ⟨rfl, hrest⟩
    | _ => cases initial_eq_of_headline_eq hline
  | loop hcondition hbody ih =>
    intro s' h' depth rest rest' hrest hrest' heq
    obtain ⟨hline, htail⟩ := hlines heq
    cases h' with
    | loop hcondition' hbody' =>
      obtain rfl := hcondition.text_inj hcondition' (by simpa [headline] using hline)
      obtain ⟨rfl, hrest⟩ := outlineBlock_append_inj ih hbody' hrest hrest' htail
      exact ⟨rfl, hrest⟩
    | _ => cases initial_eq_of_headline_eq hline
  | @funcDecl name params body hname hparams type hbody ih =>
    intro s' h' depth rest rest' hrest hrest' heq
    obtain ⟨hline, htail⟩ := hlines heq
    cases h' with
    | @funcDecl name' params' body' hname' hparams' type' hbody' =>
      have hchars :
          (application name (params.map Param.text)).toList ++ (": " ++ type.keyword).toList
            =
          (application name' (params'.map Param.text)).toList ++ (": " ++ type'.keyword).toList := by
        simpa [headline] using congrArg String.toList hline
      obtain ⟨rfl, rfl, htypes⟩ := application_append_inj hname hname'
        (fun p hp => hp.head?_text_ne) (fun p hp => ⟨hparams p hp, (hparams p hp).tells⟩) hparams'
        hchars
      obtain rfl := TypeName.keyword_inj (by simpa using String.toList_inj.mp htypes)
      obtain ⟨rfl, hrest⟩ := outlineBlock_append_inj ih hbody' hrest hrest' htail
      exact ⟨rfl, hrest⟩
    | _ => cases initial_eq_of_headline_eq hline
  | call hcall =>
    intro s' h' depth rest rest' hrest hrest' heq
    obtain ⟨hline, htail⟩ := hlines heq
    cases h' with
    | call hcall' =>
      have hcalls := hcall.text_inj hcall' (by simpa [headline, Call.text, Call.toExpr] using hline)
      obtain ⟨rfl, rfl, -⟩ := Expr.call.inj hcalls
      exact ⟨rfl, htail⟩
    | _ => cases initial_eq_of_headline_eq hline
  | ret hvalue =>
    intro s' h' depth rest rest' hrest hrest' heq
    obtain ⟨hline, htail⟩ := hlines heq
    cases h' with
    | ret hvalue' =>
      obtain rfl := hvalue.text_inj hvalue' (by simpa [headline] using hline)
      exact ⟨rfl, htail⟩
    | _ => cases initial_eq_of_headline_eq hline

end Legible

end Stmt

namespace Program

theorem legible_functional {p : Program} (h : p.Lexical) (hfloat : p.FloatFree) :
    ∀ s ∈ p.functional.statements, s.Legible := by
  apply Stmt.legible_functionalBlock p.statements h
  intro s hs e he
  exact hfloat e (List.mem_flatMap.mpr ⟨s, hs, he⟩)

/--
The outlines of two parsed programs without numbers that have a fraction are equal if and only if
the programs are equal in functional notation.
-/
theorem outline_eq_iff {source source' : String} {p p' : Program} (h : ofSource source = .ok p)
    (h' : ofSource source' = .ok p') (hfloat : p.FloatFree) (hfloat' : p'.FloatFree) :
    p.outline = p'.outline ↔ p.functional = p'.functional := by
  constructor
  · intro heq
    rw [← p.outline_functional, ← p'.outline_functional] at heq
    have hlegible := legible_functional (lexical_of_ofSource h) hfloat
    have hlegible' := legible_functional (lexical_of_ofSource h') hfloat'
    have hnil : Below 1 [] := by simp [Below]
    have hstatements := Stmt.outlineBlock_append_inj (fun s hs => (hlegible s hs).tells) hlegible'
      hnil hnil (by simpa using (List.cons.inj heq).2)
    rw [functional, functional, mk.injEq]
    exact ⟨hstatements.1, rfl⟩
  · intro heq
    rw [← p.outline_functional, ← p'.outline_functional, heq]

theorem outline_eq_iff_parens :
    ∃ p p', ofSource "Start return -x+1;end" = .ok p
      ∧ ofSource "Start\nreturn ((-x) + 1); end" = .ok p' ∧ p.FloatFree ∧ p'.FloatFree
      ∧ p.outline = ["Program (1 statements)", "  Return Add(Neg(x), 1)"]
      ∧ p'.outline = p.outline ∧ (p.outline = p'.outline ↔ p.functional = p'.functional) := by
  have hparsed (source : String) (lines : List String)
      (h : ((ofSource source).toOption.any fun p =>
        p.exprs.all (fun e => !e.isFloat) && p.outline == lines) = true) :
      ∃ p, ofSource source = .ok p ∧ p.FloatFree ∧ p.outline = lines := by
    cases hp : ofSource source with
    | error _ => simp [hp, Except.toOption] at h
    | ok p =>
      simp only [hp, Except.toOption, Option.any_some, Bool.and_eq_true, List.all_eq_true,
        Bool.not_eq_true', beq_iff_eq] at h
      exact ⟨p, rfl, h⟩
  obtain ⟨p, hp, hfloat, hlines⟩ := hparsed "Start return -x+1;end"
    ["Program (1 statements)", "  Return Add(Neg(x), 1)"] (by decide +kernel)
  obtain ⟨p', hp', hfloat', hlines'⟩ := hparsed "Start\nreturn ((-x) + 1); end"
    ["Program (1 statements)", "  Return Add(Neg(x), 1)"] (by decide +kernel)
  exact ⟨p, p', hp, hp', hfloat, hfloat', hlines, hlines'.trans hlines.symm,
    outline_eq_iff hp hp' hfloat hfloat'⟩

end Program

end StartEnd
