import StartEnd.Proofs.Derivation.Level
import StartEnd.Proofs.Parse.Step

/-!
This module contains what the goals of a parse ensure about the trees that it builds. A goal finds
certain trees in front of it and leaves one tree of its own behind; steps keep what the goals that
remain ensure about the end of the parse.
-/

namespace StartEnd

open StartEnd.Tree

/--
Rules that make a list of items with commas between them, or an empty one.
-/
structure Rule.CommaList (item : Symbol) (tailEmpty tailComma list optional : Rule) : Prop where
  empty : tailEmpty.rhs = [.empty]
  label : tailEmpty.label = tailComma.label
  comma : tailComma.rhs = [.comma, item, tailComma.label]
  first : list.rhs = [item, tailComma.label]
  whole : optional.rhs = [list.label]
  levels : ∀ r ∈ [tailEmpty, tailComma, list, optional], r.levels = 0

theorem Rule.CommaList.params :
    CommaList .param .paramTailEmpty .paramTailComma .paramList .optionalParamsList :=
  ⟨rfl, rfl, rfl, rfl, rfl, by decide⟩

theorem Rule.CommaList.args :
    CommaList .expression .argTailEmpty .argTailComma .argList .optionalArgsList :=
  ⟨rfl, rfl, rfl, rfl, rfl, by decide⟩

/--
The latest trees fit the needed symbols, of which the latest stands first, and whatever tree of the
result replaces them, the condition holds.
-/
def Forest.Completes (forest : Forest) (needs : List Symbol) (depth : Nat) (result : Symbol)
    (post : Forest → Prop) : Prop :=
  ∃ trees rest, forest = trees ++ rest ∧ List.Forall₂ (fun s T => T.Fits s depth) needs trees
    ∧ ∀ T : Tree, T.Fits result depth → post (T :: rest)

namespace Goal

/--
The goal is at its place behind the trees of a forest, and however it is met, the condition holds
afterwards.
-/
def Ensures (goal : Goal) (post : Forest → Prop) (forest : Forest) : Prop :=
  match goal with
  | .take .eof => post forest
  | .take s => ∀ t : Token, t.symbol = s → post (.leaf t :: forest)
  | .reduce r => (forest.take r.arity).reverse.map symbol = r.rhs ∧ post (forest.reduce r)
  | .statements read budget =>
    forest.Completes (List.replicate read [.statement]).flatten budget .statementList post
  | .namedStatement budget => forest.Completes [.identifier] budget .statement post
  | .elseBranch budget => forest.Completes [] budget .optionalElse post
  | .type => forest.Completes [] 0 .type post
  | .params => forest.Completes [] 0 .optionalParams post
  | .moreParams read =>
    forest.Completes ((List.replicate read [.param, .comma]).flatten ++ [.param]) 0 .optionalParams
      post
  | .args budget => forest.Completes [] budget .optionalArgs post
  | .moreArgs read budget =>
    forest.Completes ((List.replicate read [.expression, .comma]).flatten ++ [.expression]) budget
      .optionalArgs post
  | .expression budget => forest.Completes [] budget .expression post
  | .operand level budget => forest.Completes [] budget level.operand post
  | .operators level budget => forest.Completes [level.symbol] budget level.symbol post
  | .namedFactor budget => forest.Completes [.identifier] budget .factor post
  | .signed budget => ∀ inner, inner + 1 = budget → forest.Completes [] inner .factor post

/--
The goals ensure a condition on the trees behind all of them.
-/
def EnsuresAll (goals : List Goal) (post : Forest → Prop) : Forest → Prop :=
  goals.foldr Ensures post

variable {post : Forest → Prop} {forest : Forest}

@[simp]
theorem ensuresAll_cons (goal : Goal) (goals : List Goal) :
    EnsuresAll (goal :: goals) post = goal.Ensures (EnsuresAll goals post) := rfl

@[simp]
theorem ensuresAll_append (first goals : List Goal) :
    EnsuresAll (first ++ goals) post = EnsuresAll first (EnsuresAll goals post) := by
  simp [EnsuresAll]

theorem ensures_take {s : Symbol} (hs : s ≠ .eof) :
    (take s).Ensures post forest ↔ ∀ t : Token, t.symbol = s → post (.leaf t :: forest) := by
  cases s
  case eof => exact absurd rfl hs
  all_goals rfl

theorem ensures_reduce (r : Rule) {depth : Nat} (inner : Nat) (trees : List Tree)
    (h : List.Forall₂ (fun s T => T.Fits s inner) r.rhs trees) (hd : inner + r.levels ≤ depth)
    (hp : ∀ T : Tree, T.Fits r.label depth → post (T :: forest)) :
    (reduce r).Ensures post (trees.reverse ++ forest) := by
  have hlen : r.arity = trees.reverse.length := by
    rw [Rule.arity, h.length_eq, List.length_reverse]
  have hfits := fits_node h hd
  simp only [Ensures, Forest.reduce]
  rw [hlen, List.take_left, List.drop_left, List.reverse_reverse]
  refine ⟨?_, hp _ hfits⟩
  cases hfits.valid with
  | node hs _ => exact hs

theorem ensures_reduce_flat (r : Rule) {depth : Nat} (trees : List Tree)
    (h : List.Forall₂ (fun s T => T.Fits s depth) r.rhs trees) (hl : r.levels = 0)
    (hp : ∀ T : Tree, T.Fits r.label depth → post (T :: forest)) :
    (reduce r).Ensures post (trees.reverse ++ forest) := by
  apply ensures_reduce r depth trees h _ hp
  omega

theorem ensures_reduce_single {r : Rule} {s : Symbol} {depth : Nat} {T : Tree} (hr : r.rhs = [s])
    (hl : r.levels = 0) (hT : T.Fits s depth)
    (hp : ∀ T : Tree, T.Fits r.label depth → post (T :: forest)) :
    (reduce r).Ensures post (T :: forest) := by
  apply ensures_reduce_flat r [T] _ hl hp
  rw [hr]
  exact .cons hT .nil

theorem ensuresAll_leaf {r : Rule} {s : Symbol} {t : Token} (depth : Nat) (ht : t.symbol = s)
    (hs : s.isTerminal) (hr : r.rhs = [s]) (hl : r.levels = 0)
    (hp : ∀ T : Tree, T.Fits r.label depth → post (T :: forest)) :
    EnsuresAll [.reduce r] post (.leaf t :: forest) := by
  apply ensures_reduce_single hr hl (fits_leaf depth ht hs) hp

theorem ensuresAll_param {name : Tree} (hname : name.Fits .identifier 0) {goals : List Goal}
    (hp : ∀ T : Tree, T.Fits .param 0 → EnsuresAll goals post (T :: forest)) :
    EnsuresAll (.take .colon :: .type :: .reduce .param :: goals) post (name :: forest) := by
  intro colon hcolon
  refine ⟨[], _, rfl, .nil, fun type htype => ?_⟩
  apply ensures_reduce_flat .param [name, .leaf colon, type] _ rfl hp
  exact .cons hname (.cons (fits_leaf _ hcolon rfl) (.cons htype .nil))

theorem ensuresAll_joins {r : Rule} {items : List Symbol} {depth : Nat}
    (hr : r.rhs = items.reverse ++ [r.label]) (hl : r.levels = 0) (n : Nat) {tail : Tree}
    {trees : List Tree} (htail : tail.Fits r.label depth)
    (h : List.Forall₂ (fun s T => T.Fits s depth) (List.replicate n items).flatten trees)
    (hp : ∀ T : Tree, T.Fits r.label depth → post (T :: forest)) :
    EnsuresAll ((List.replicate n r).map reduce) post (tail :: (trees ++ forest)) := by
  induction n generalizing tail trees with
  | zero =>
    obtain rfl : trees = [] := by simpa using h
    apply hp tail htail
  | succ n ih =>
    rw [List.replicate_succ, List.flatten_cons] at h
    obtain ⟨front, rest, rfl, hfront, hrest⟩ := exists_append_of_forall₂ h
    have hjoined : List.Forall₂ (fun s T => T.Fits s depth) r.rhs (front.reverse ++ [tail]) := by
      rw [hr]
      apply List.rel_append (List.rel_reverse hfront) (.cons htail .nil)
    rw [List.replicate_succ, List.map_cons, ensuresAll_cons]
    have := ensures_reduce_flat _ _ hjoined hl fun T hT => ih hT hrest
    simpa using this

theorem ensuresAll_empty {r : Rule} {depth : Nat} (hr : r.rhs = [.empty]) (hl : r.levels = 0)
    (hp : ∀ T : Tree, T.Fits r.label depth → post (T :: forest)) :
    EnsuresAll [.reduce .empty, .reduce r] post forest := by
  apply ensures_reduce_flat .empty [] .nil rfl
  intro T hT
  apply ensures_reduce_single hr hl hT hp

theorem ensuresAll_commaList {item : Symbol} {tailEmpty tailComma list optional : Rule} {depth : Nat}
    (rules : Rule.CommaList item tailEmpty tailComma list optional) {n : Nat}
    (h : forest.Completes ((List.replicate n [item, .comma]).flatten ++ [item]) depth optional.label
      post) :
    EnsuresAll (([.empty, tailEmpty] ++ List.replicate n tailComma ++ [list, optional]).map reduce) post
      forest := by
  obtain ⟨trees, rest, rfl, hfits, hp⟩ := h
  obtain ⟨joined, first, rfl, hjoined, hfirst⟩ := exists_append_of_forall₂ hfits
  obtain _ | ⟨hfirst, _ | _⟩ := hfirst
  rename_i first
  rw [List.map_append, List.map_append, ensuresAll_append, ensuresAll_append, List.append_assoc]
  apply ensuresAll_empty rules.empty (rules.levels _ (by simp))
  intro tail htail
  rw [rules.label] at htail
  apply ensuresAll_joins rules.comma (rules.levels _ (by simp)) n htail hjoined
  intro tail htail
  apply ensures_reduce_flat _ [first, tail] _ (rules.levels _ (by simp))
  · intro T hT
    apply ensures_reduce_single rules.whole (rules.levels _ (by simp)) hT hp
  · rw [rules.first]
    exact .cons hfirst (.cons htail .nil)

variable {g : Grammar}

theorem answerFactor_ne_met (budget : Nat) (s : Symbol) (rules : List Rule) (unmet : List Symbol) :
    answerFactor g budget s ≠ .met rules unmet := by
  unfold answerFactor
  split <;> simp

theorem answerExpression_ne_met (budget : Nat) (s : Symbol) (rules : List Rule)
    (unmet : List Symbol) : answerExpression g budget s ≠ .met rules unmet := by
  cases budget with
  | zero => simp [answerExpression]
  | succ budget =>
    intro h
    apply answerFactor_ne_met budget s rules unmet (Answer.followedBy_eq_met.mp h)

theorem answerStatements_eq_met {read budget : Nat} {s : Symbol} {rules : List Rule}
    {unmet : List Symbol} (h : answerStatements g read budget s = .met rules unmet) :
    rules = .empty :: .statementEmpty :: List.replicate read .statementList
      ∧ unmet = g.first .statement := by
  unfold answerStatements at h
  split at h <;> simp_all

/--
The reductions that meet a goal ensure what it does.
-/
theorem ensuresAll_of_met {goal : Goal} {s : Symbol} {rules : List Rule} {unmet : List Symbol}
    (ha : goal.answer g s = .met rules unmet) (h : goal.Ensures post forest) :
    EnsuresAll (rules.map reduce) post forest := by
  cases goal with
  | take t =>
    obtain ⟨rfl, rfl⟩ : t = .eof ∧ rules = [] := by grind [answer]
    exact h
  | reduce r =>
    obtain ⟨rfl, -⟩ : [r] = rules ∧ [] = unmet := by simpa [answer] using ha
    exact h
  | statements read budget =>
    obtain ⟨rfl, -⟩ := answerStatements_eq_met ha
    obtain ⟨trees, rest, rfl, hfits, hp⟩ := h
    exact ensuresAll_empty rfl rfl fun T hT => ensuresAll_joins rfl rfl read hT hfits hp
  | namedStatement budget =>
    simp only [answer] at ha
    split at ha <;> simp at ha
  | elseBranch budget =>
    obtain rfl : rules = [.empty, .optionalElseEmpty] := by
      simp only [answer] at ha
      split at ha <;> simp_all
    obtain ⟨_, rest, rfl, ⟨⟩, hp⟩ := h
    exact ensuresAll_empty rfl rfl hp
  | type =>
    simp only [answer] at ha
    split at ha <;> simp at ha
  | params =>
    obtain rfl : rules = [.empty, .optionalParamsEmpty] := by
      simp only [answer] at ha
      split at ha <;> simp_all
    obtain ⟨_, rest, rfl, ⟨⟩, hp⟩ := h
    exact ensuresAll_empty rfl rfl hp
  | moreParams read =>
    obtain rfl : rules = [.empty, .paramTailEmpty] ++ List.replicate read .paramTailComma
        ++ [.paramList, .optionalParamsList] := by
      simp only [answer] at ha
      split at ha <;> simp_all
    apply ensuresAll_commaList .params h
  | args budget =>
    obtain rfl : rules = [.empty, .optionalArgsEmpty] := by
      simp only [answer] at ha
      split at ha
      · exact absurd (Answer.followedBy_eq_met.mp ha) (answerExpression_ne_met budget s rules unmet)
      · simp_all
    obtain ⟨_, rest, rfl, ⟨⟩, hp⟩ := h
    exact ensuresAll_empty rfl rfl hp
  | moreArgs read budget =>
    obtain rfl : rules = [.empty, .argTailEmpty] ++ List.replicate read .argTailComma
        ++ [.argList, .optionalArgsList] := by
      simp only [answer] at ha
      split at ha <;> simp_all
    apply ensuresAll_commaList .args h
  | expression budget => exact absurd ha (answerExpression_ne_met budget s rules unmet)
  | operand level budget =>
    exact absurd (Answer.followedBy_eq_met.mp ha) (answerFactor_ne_met budget s rules unmet)
  | operators level budget =>
    obtain rfl : rules = [] := by
      simp only [answer] at ha
      split at ha <;> simp_all
    obtain ⟨_, rest, rfl, _ | ⟨hT, _ | _⟩, hp⟩ := h
    apply hp _ hT
  | namedFactor budget =>
    obtain rfl : rules = [.factorIdentifier] := by
      simp only [answer] at ha
      split at ha <;> simp_all
    obtain ⟨_, rest, rfl, _ | ⟨hT, _ | _⟩, hp⟩ := h
    exact ensures_reduce_single rfl rfl hT hp
  | signed budget =>
    cases budget with
    | zero => simp [answer] at ha
    | succ budget => exact absurd ha (answerFactor_ne_met budget s rules unmet)

theorem ensuresAll_namedFactor {t : Token} {budget : Nat} (ht : t.symbol = .identifier)
    (hp : ∀ T : Tree, T.Fits .factor budget → post (T :: forest)) :
    EnsuresAll [.namedFactor budget] post (.leaf t :: forest) :=
  ⟨[.leaf t], forest, rfl, .cons (fits_leaf _ ht rfl) .nil, hp⟩

-- A sign opens a level, so that the factor behind it has one level less to go.
theorem ensuresAll_signed {r : Rule} {s : Symbol} {t : Token} {budget : Nat} (ht : t.symbol = s)
    (hs : s.isTerminal) (hr : r.rhs = [s, .factor]) (hl : r.levels = 1)
    (hp : ∀ T : Tree, T.Fits r.label budget → post (T :: forest)) :
    EnsuresAll [.signed budget, .reduce r] post (.leaf t :: forest) := by
  intro inner hinner
  refine ⟨[], _, rfl, .nil, fun T hT => ?_⟩
  have hdepth : inner + r.levels ≤ budget := by omega
  apply ensures_reduce r inner [.leaf t, T] _ hdepth hp
  rw [hr]
  exact .cons (fits_leaf _ ht hs) (.cons hT .nil)

theorem ensuresAll_factor {budget : Nat} {t : Token} {first : List Goal}
    (ha : answerFactor g budget t.symbol = .shift first)
    (hp : ∀ T : Tree, T.Fits .factor budget → post (T :: forest)) :
    EnsuresAll first post (.leaf t :: forest) := by
  unfold answerFactor at ha
  split at ha <;> simp only [Answer.shift.injEq, reduceCtorEq] at ha <;> subst ha
  case h_1 ht => exact ensuresAll_namedFactor ht hp
  case h_2 ht => exact ensuresAll_leaf budget ht rfl rfl rfl hp
  case h_3 ht => exact ensuresAll_leaf budget ht rfl rfl rfl hp
  case h_4 ht => exact ensuresAll_leaf budget ht rfl rfl rfl hp
  case h_5 ht => exact ensuresAll_leaf budget ht rfl rfl rfl hp
  case h_6 ht =>
    refine ⟨[], _, rfl, .nil, fun T hT => ?_⟩
    intro u hu
    apply ensures_reduce_flat .factorParens [.leaf t, T, .leaf u] _ rfl hp
    exact .cons (fits_leaf _ ht rfl) (.cons hT (.cons (fits_leaf _ hu rfl) .nil))
  case h_7 ht => exact ensuresAll_signed ht rfl rfl rfl hp
  case h_8 ht => exact ensuresAll_signed ht rfl rfl rfl hp
  case h_9 ht => exact ensuresAll_signed ht rfl rfl rfl hp

theorem ensuresAll_climb (level : Level) {budget : Nat} {F : Tree} (hF : F.Fits .factor budget)
    (hp : ∀ T : Tree, T.Fits level.operand budget → post (T :: forest)) :
    EnsuresAll (climb budget level.tighter) post (F :: forest) := by
  induction level using Level.induct generalizing post with
  | level level ih =>
    cases hn : level.next? with
    | none =>
      rw [Level.tighter_of_none hn]
      apply hp
      simpa [Level.operand, hn] using hF
    | some next =>
      have hoperand : level.operand = next.symbol := by simp [Level.operand, hn]
      rw [Level.tighter_of_next hn, climb, List.flatMap_append, ensuresAll_append]
      apply ih next hn
      intro T hT
      apply ensures_reduce_single next.single_rhs next.single_levels hT
      intro T hT
      rw [Level.single_label] at hT
      exact ⟨[T], forest, rfl, .cons hT .nil, hoperand ▸ hp⟩

theorem ensuresAll_expression {budget : Nat} {t : Token} {first : List Goal}
    (ha : answerExpression g budget t.symbol = .shift first)
    (hp : ∀ T : Tree, T.Fits .expression budget → post (T :: forest)) :
    EnsuresAll first post (.leaf t :: forest) := by
  cases budget with
  | zero => simp [answerExpression] at ha
  | succ budget =>
    obtain ⟨front, hfront, rfl⟩ := Answer.followedBy_eq_shift.mp ha
    rw [ensuresAll_append]
    apply ensuresAll_factor hfront
    intro F hF
    rw [restOfExpression, climb, List.flatMap_append, List.append_assoc, ensuresAll_append]
    apply ensuresAll_climb .or hF
    intro T hT
    apply ensures_reduce_single Level.or.single_rhs rfl hT
    intro T hT
    refine ⟨[T], forest, rfl, .cons hT .nil, fun T hT => ?_⟩
    -- The rule of expressions opens a level, so that its tree is nested one level deeper.
    exact ensures_reduce _ _ [T] (.cons hT .nil) (Nat.le_refl _) hp

theorem ensuresAll_call {budget : Nat} {name : Tree} {t : Token}
    (hname : name.Fits .identifier budget) (ht : t.symbol = .lParen)
    (hp : ∀ T : Tree, T.Fits .methodCall budget → post (T :: forest)) :
    EnsuresAll (restOfCall budget) post (.leaf t :: name :: forest) := by
  refine ⟨[], _, rfl, .nil, fun args hargs => ?_⟩
  intro close hclose semi hsemi
  apply ensures_reduce_flat .methodCall [name, .leaf t, args, .leaf close, .leaf semi] _ rfl hp
  exact .cons hname (.cons (fits_leaf _ ht rfl) (.cons hargs
    (.cons (fits_leaf _ hclose rfl) (.cons (fits_leaf _ hsemi rfl) .nil))))

theorem ensuresAll_statement {r : Rule} {s : Symbol} (hr : r.rhs = [s]) (hlabel : r.label = .statement)
    (hl : r.levels = 0) {read budget : Nat} {T : Tree} (hT : T.Fits s budget)
    (h : (statements read budget).Ensures post forest) :
    EnsuresAll [.reduce r, .statements (read + 1) budget] post (T :: forest) := by
  obtain ⟨trees, rest, rfl, hfits, hp⟩ := h
  apply ensures_reduce_single hr hl hT
  intro T hT
  rw [hlabel] at hT
  exact ⟨T :: trees, rest, rfl, .cons hT hfits, hp⟩

theorem ensuresAll_statements {read budget : Nat} {t : Token} {first : List Goal}
    (ha : answerStatements g read budget t.symbol = .shift first)
    (h : (statements read budget).Ensures post forest) :
    EnsuresAll first post (.leaf t :: forest) := by
  unfold answerStatements at ha
  split at ha <;> simp only [Answer.shift.injEq, reduceCtorEq] at ha <;> subst ha
  case h_1 budget _ _ ht =>
    intro name hname colon hcolon
    refine ⟨[], _, rfl, .nil, fun type htype => ?_⟩
    intro semi hsemi
    apply ensures_reduce_flat _ [.leaf t, .leaf name, .leaf colon, type, .leaf semi] _ rfl
      fun T hT => ensuresAll_statement rfl rfl rfl hT h
    exact .cons (fits_leaf _ ht rfl) (.cons (fits_leaf _ hname rfl)
      (.cons (fits_leaf _ hcolon rfl) (.cons (htype.mono (Nat.zero_le _))
        (.cons (fits_leaf _ hsemi rfl) .nil))))
  case h_2 budget _ _ ht =>
    refine ⟨[], _, rfl, .nil, fun value hvalue => ?_⟩
    intro semi hsemi
    apply ensures_reduce_flat _ [.leaf t, value, .leaf semi] _ rfl
      fun T hT => ensuresAll_statement rfl rfl rfl hT h
    exact .cons (fits_leaf _ ht rfl) (.cons hvalue (.cons (fits_leaf _ hsemi rfl) .nil))
  case h_3 ht =>
    obtain ⟨trees, rest, rfl, hfits, hp⟩ := h
    exact ⟨[.leaf t], _, rfl, .cons (fits_leaf _ ht rfl) .nil,
      fun T hT => ⟨T :: trees, rest, rfl, .cons hT hfits, hp⟩⟩
  case h_4 inner ht =>
    refine ⟨[], _, rfl, .nil, fun test htest => ?_⟩
    intro word hword
    refine ⟨[], _, rfl, .nil, fun body hbody => ?_⟩
    refine ⟨[], _, rfl, .nil, fun other hother => ?_⟩
    intro close hclose
    apply ensures_reduce _ inner [.leaf t, test, .leaf word, body, other, .leaf close] _
      (Nat.le_refl _) fun T hT => ensuresAll_statement rfl rfl rfl hT h
    exact .cons (fits_leaf _ ht rfl) (.cons htest (.cons (fits_leaf _ hword rfl)
      (.cons hbody (.cons hother (.cons (fits_leaf _ hclose rfl) .nil)))))
  case h_5 inner ht =>
    refine ⟨[], _, rfl, .nil, fun test htest => ?_⟩
    intro word hword
    refine ⟨[], _, rfl, .nil, fun body hbody => ?_⟩
    intro close hclose
    apply ensures_reduce _ inner [.leaf t, test, .leaf word, body, .leaf close] _
      (Nat.le_refl _) fun T hT => ensuresAll_statement rfl rfl rfl hT h
    exact .cons (fits_leaf _ ht rfl) (.cons htest (.cons (fits_leaf _ hword rfl)
      (.cons hbody (.cons (fits_leaf _ hclose rfl) .nil))))
  case h_6 inner ht =>
    intro name hname opening hopening
    refine ⟨[], _, rfl, .nil, fun params hparams => ?_⟩
    intro close hclose colon hcolon
    refine ⟨[], _, rfl, .nil, fun type htype => ?_⟩
    intro word hword
    refine ⟨[], _, rfl, .nil, fun body hbody => ?_⟩
    intro last hlast
    apply ensures_reduce _ inner [.leaf t, .leaf name, .leaf opening, params, .leaf close,
      .leaf colon, type, .leaf word, body, .leaf last] _ (Nat.le_refl _)
      fun T hT => ensuresAll_statement rfl rfl rfl hT h
    exact .cons (fits_leaf _ ht rfl) (.cons (fits_leaf _ hname rfl)
      (.cons (fits_leaf _ hopening rfl) (.cons (hparams.mono (Nat.zero_le _))
        (.cons (fits_leaf _ hclose rfl) (.cons (fits_leaf _ hcolon rfl)
          (.cons (htype.mono (Nat.zero_le _)) (.cons (fits_leaf _ hword rfl)
            (.cons hbody (.cons (fits_leaf _ hlast rfl) .nil)))))))))

/--
A goal that takes the lookahead leaves goals behind that ensure the same.
-/
theorem ensuresAll_of_shift {goal : Goal} {t : Token} {first : List Goal}
    (ha : goal.answer g t.symbol = .shift first) (h : goal.Ensures post forest) :
    EnsuresAll first post (.leaf t :: forest) := by
  cases goal with
  | take s =>
    obtain ⟨hs, hne, rfl⟩ : t.symbol = s ∧ s ≠ .eof ∧ [] = first := by
      simp only [answer] at ha
      grind
    exact (ensures_take hne).mp h t hs
  | reduce r => simp [answer] at ha
  | statements read budget => exact ensuresAll_statements ha h
  | namedStatement budget =>
    obtain ⟨_, rest, rfl, _ | ⟨hname, _ | _⟩, hp⟩ := h
    simp only [answer] at ha
    split at ha <;> simp only [Answer.shift.injEq, reduceCtorEq] at ha <;> subst ha
    case h_1 ht =>
      rw [ensuresAll_append]
      exact ensuresAll_call hname ht
        fun T hT => ensures_reduce_single rfl rfl hT hp
    case h_2 ht =>
      refine ⟨[], _, rfl, .nil, fun value hvalue => ?_⟩
      intro semi hsemi
      apply ensures_reduce_flat .assignment [_, .leaf t, value, .leaf semi] _ rfl
        fun T hT => ensures_reduce_single (r := .statementAssignment) rfl rfl hT hp
      exact .cons hname (.cons (fits_leaf _ ht rfl) (.cons hvalue
        (.cons (fits_leaf _ hsemi rfl) .nil)))
  | elseBranch budget =>
    obtain ⟨_, rest, rfl, ⟨⟩, hp⟩ := h
    simp only [answer] at ha
    split at ha <;> simp only [Answer.shift.injEq, reduceCtorEq] at ha
    case h_1 ht =>
      subst ha
      refine ⟨[], _, rfl, .nil, fun body hbody => ?_⟩
      apply ensures_reduce_flat .optionalElseElse [.leaf t, body] _ rfl hp
      exact .cons (fits_leaf _ ht rfl) (.cons hbody .nil)
  | type =>
    obtain ⟨_, rest, rfl, ⟨⟩, hp⟩ := h
    simp only [answer] at ha
    split at ha <;> simp only [Answer.shift.injEq, reduceCtorEq] at ha <;> subst ha
    case h_1 ht => exact ensuresAll_leaf 0 ht rfl rfl rfl hp
    case h_2 ht => exact ensuresAll_leaf 0 ht rfl rfl rfl hp
    case h_3 ht => exact ensuresAll_leaf 0 ht rfl rfl rfl hp
    case h_4 ht => exact ensuresAll_leaf 0 ht rfl rfl rfl hp
  | params =>
    obtain ⟨_, rest, rfl, ⟨⟩, hp⟩ := h
    simp only [answer] at ha
    split at ha <;> simp only [Answer.shift.injEq, reduceCtorEq] at ha
    case h_1 ht =>
      subst ha
      apply ensuresAll_param (fits_leaf _ ht rfl)
      intro T hT
      exact ⟨[T], rest, rfl, .cons hT .nil, hp⟩
  | moreParams read =>
    obtain ⟨trees, rest, rfl, hfits, hp⟩ := h
    simp only [answer] at ha
    split at ha <;> simp only [Answer.shift.injEq, reduceCtorEq] at ha
    case h_1 ht =>
      subst ha
      intro name hname
      apply ensuresAll_param (fits_leaf _ hname rfl)
      intro T hT
      exact ⟨T :: .leaf t :: trees, rest, rfl, .cons hT (.cons (fits_leaf _ ht rfl) hfits), hp⟩
  | args budget =>
    obtain ⟨_, rest, rfl, ⟨⟩, hp⟩ := h
    simp only [answer] at ha
    split at ha
    · obtain ⟨front, hfront, rfl⟩ := Answer.followedBy_eq_shift.mp ha
      rw [ensuresAll_append]
      apply ensuresAll_expression hfront
      intro T hT
      exact ⟨[T], rest, rfl, .cons hT .nil, hp⟩
    · simp at ha
  | moreArgs read budget =>
    obtain ⟨trees, rest, rfl, hfits, hp⟩ := h
    simp only [answer] at ha
    split at ha <;> simp only [Answer.shift.injEq, reduceCtorEq] at ha
    case h_1 ht =>
      subst ha
      refine ⟨[], _, rfl, .nil, fun T hT => ?_⟩
      exact ⟨T :: .leaf t :: trees, rest, rfl, .cons hT (.cons (fits_leaf _ ht rfl) hfits), hp⟩
  | expression budget =>
    obtain ⟨_, rest, rfl, ⟨⟩, hp⟩ := h
    apply ensuresAll_expression ha hp
  | operand level budget =>
    obtain ⟨_, rest, rfl, ⟨⟩, hp⟩ := h
    obtain ⟨front, hfront, rfl⟩ := Answer.followedBy_eq_shift.mp ha
    rw [ensuresAll_append]
    exact ensuresAll_factor hfront fun F hF => ensuresAll_climb level hF hp
  | operators level budget =>
    obtain ⟨_, rest, rfl, _ | ⟨hleft, _ | _⟩, hp⟩ := h
    simp only [answer] at ha
    split at ha <;> simp only [Answer.shift.injEq, reduceCtorEq] at ha
    case h_1 rule hrule =>
      subst ha
      obtain ⟨hlabel, hrhs, hl, hs⟩ := Level.operators_spec (Level.lookup_operators.mp hrule)
      refine ⟨[], _, rfl, .nil, fun right hright => ?_⟩
      apply ensures_reduce_flat rule [_, .leaf t, right] _ hl
      · intro T hT
        rw [hlabel] at hT
        exact ⟨[T], rest, rfl, .cons hT .nil, hp⟩
      · rw [hrhs]
        exact .cons hleft (.cons (fits_leaf _ rfl hs) (.cons hright .nil))
  | namedFactor budget =>
    obtain ⟨_, rest, rfl, _ | ⟨hname, _ | _⟩, hp⟩ := h
    simp only [answer] at ha
    split at ha <;> simp only [Answer.shift.injEq, reduceCtorEq] at ha
    case h_1 ht =>
      subst ha
      rw [ensuresAll_append]
      exact ensuresAll_call hname ht
        fun T hT => ensures_reduce_single rfl rfl hT hp
  | signed budget =>
    cases budget with
    | zero => simp [answer] at ha
    | succ budget =>
      obtain ⟨_, rest, rfl, ⟨⟩, hp⟩ := h budget rfl
      apply ensuresAll_factor ha hp

end Goal

end StartEnd
