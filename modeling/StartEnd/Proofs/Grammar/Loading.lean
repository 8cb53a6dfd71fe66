import StartEnd.Grammar.Table
import Mathlib.Data.List.Basic
import Mathlib.Data.Option.Basic

/-!
This module contains the proof that loading accepts the standard production table and no other one,
and that the error which it reports is about the first record that differs, whatever follows it.
-/

namespace StartEnd

theorem eq_of_getElem?_of_map_eq_range {α : Type} {as : List α} {id : α → Nat}
    (hids : as.map id = List.range as.length) {n : Nat} {a : α} (h : as[n]? = some a) :
    id a = n := by
  have hid := congrArg (Option.map id) h
  rw [← List.getElem?_map, hids] at hid
  simpa using (List.getElem?_eq_some_iff.mp hid).2.symm

namespace Symbol

/--
The symbols that cannot appear on a right-hand side.
-/
def reserved : List Symbol := [.eof, .error, .whitespace]

theorem ofId?_eq_some_iff {n : Nat} {s : Symbol} : ofId? n = some s ↔ s.id = n := by
  constructor
  · apply eq_of_getElem?_of_map_eq_range rfl
  · rintro rfl
    cases s <;> rfl

theorem ofId?_eq_none_iff {n : Nat} : ofId? n = none ↔ all.length ≤ n := List.getElem?_eq_none_iff

theorem id_lt (s : Symbol) : s.id < all.length := by
  cases s <;> decide

theorem toNat_ofNat_id (s : Symbol) : (UInt16.ofNat s.id).toNat = s.id := by
  apply Nat.mod_eq_of_lt
  have := s.id_lt
  have : all.length < 2 ^ 16 := by decide
  omega

end Symbol

namespace Rule

theorem ofId?_eq_some_iff {n : Nat} {r : Rule} : ofId? n = some r ↔ r.id = n := by
  constructor
  · apply eq_of_getElem?_of_map_eq_range rfl
  · rintro rfl
    cases r <;> rfl

theorem ofId?_eq_none_iff {n : Nat} : ofId? n = none ↔ all.length ≤ n := List.getElem?_eq_none_iff

theorem id_injective : Function.Injective id := by
  have h : ofId? ∘ id = some := funext fun r => ofId?_eq_some_iff.mpr rfl
  apply Function.Injective.of_comp (f := ofId?)
  rw [h]
  apply Option.some_injective

theorem id_lt (r : Rule) : r.id < all.length := by
  cases r <;> decide

theorem toNat_ofNat_id (r : Rule) : (UInt16.ofNat r.id).toNat = r.id := by
  apply Nat.mod_eq_of_lt
  have := r.id_lt
  have : all.length < 2 ^ 16 := by decide
  omega

theorem isNonterminal_lhs (r : Rule) : r.lhs.isNonterminal := by
  cases r <;> rfl

theorem free_rhs (r : Rule) : ∀ s ∈ r.rhs, s ∉ Symbol.reserved := by
  cases r <;> decide

/--
The production that restates a rule.
-/
def production (r : Rule) : Production := ⟨r, r.lhs, r.rhs⟩

end Rule

namespace Record

/--
The record that restates a rule.
-/
def ofRule (r : Rule) : Record := .ofProduction r.production

theorem standard_eq : standard = Rule.all.map ofRule := rfl

/--
The error that a record causes at a position of a table: that of the first check that it fails. The
symbols of the right-hand side are looked up one after the other, and only then compared.
-/
inductive Blames (position : Nat) (record : Record) : LoadError → Prop where
  | undefinedRule (h : Rule.all.length ≤ record.rule.toNat) :
    Blames position record (.undefinedRule record.rule)
  | ruleOutOfOrder {r : Rule} (hrule : r.id = record.rule.toNat) (h : r.id ≠ position) :
    Blames position record (.ruleOutOfOrder position record.rule)
  | undefinedLhs {r : Rule} (hrule : r.id = record.rule.toNat) (hposition : r.id = position)
    (h : Symbol.all.length ≤ record.lhs.toNat) :
    Blames position record (.undefinedSymbol r record.lhs)
  | terminalLhs {r : Rule} {lhs : Symbol} (hrule : r.id = record.rule.toNat)
    (hposition : r.id = position) (hlhs : lhs.id = record.lhs.toNat) (h : ¬ lhs.isNonterminal) :
    Blames position record (.terminalLhs r lhs)
  | lhsMismatch {r : Rule} {lhs : Symbol} (hrule : r.id = record.rule.toNat)
    (hposition : r.id = position) (hlhs : lhs.id = record.lhs.toNat) (hkind : lhs.isNonterminal)
    (h : lhs ≠ r.lhs) :
    Blames position record (.lhsMismatch r lhs)
  | undefinedRhs {r : Rule} {before after : List UInt16} {id : UInt16}
    (hrule : r.id = record.rule.toNat) (hposition : r.id = position)
    (hlhs : r.lhs.id = record.lhs.toNat) (hrhs : record.rhs = before ++ id :: after)
    (hbefore : ∀ i ∈ before, i.toNat < Symbol.all.length) (h : Symbol.all.length ≤ id.toNat) :
    Blames position record (.undefinedSymbol r id)
  | reservedSymbol {r : Rule} {before after : List Symbol} {s : Symbol}
    (hrule : r.id = record.rule.toNat) (hposition : r.id = position)
    (hlhs : r.lhs.id = record.lhs.toNat)
    (hrhs : (before ++ s :: after).map Symbol.id = record.rhs.map UInt16.toNat)
    (hbefore : ∀ u ∈ before, u ∉ Symbol.reserved)
    (h : s ∈ Symbol.reserved) :
    Blames position record (.reservedSymbol r s)
  | arityMismatch {r : Rule} {rhs : List Symbol} (hrule : r.id = record.rule.toNat)
    (hposition : r.id = position) (hlhs : r.lhs.id = record.lhs.toNat)
    (hrhs : rhs.map Symbol.id = record.rhs.map UInt16.toNat)
    (hfree : ∀ u ∈ rhs, u ∉ Symbol.reserved) (h : rhs.length ≠ r.arity) :
    Blames position record (.arityMismatch r rhs.length)
  | rhsMismatch {r : Rule} {rhs : List Symbol} (hrule : r.id = record.rule.toNat)
    (hposition : r.id = position) (hlhs : r.lhs.id = record.lhs.toNat)
    (hrhs : rhs.map Symbol.id = record.rhs.map UInt16.toNat)
    (hfree : ∀ u ∈ rhs, u ∉ Symbol.reserved) (harity : rhs.length = r.arity)
    (h : rhs ≠ r.rhs) :
    Blames position record (.rhsMismatch r rhs)

theorem ofProduction_eq_iff {p : Production} {record : Record} :
    .ofProduction p = record ↔ p.rule.id = record.rule.toNat ∧ p.lhs.id = record.lhs.toNat
      ∧ p.rhs.map Symbol.id = record.rhs.map UInt16.toNat := by
  have hrhs : (p.rhs.map fun s => UInt16.ofNat s.id).map UInt16.toNat = p.rhs.map Symbol.id := by
    rw [List.map_map]
    exact List.map_congr_left fun s _ => s.toNat_ofNat_id
  constructor
  · rintro rfl
    exact ⟨p.rule.toNat_ofNat_id.symm, p.lhs.toNat_ofNat_id.symm, hrhs.symm⟩
  · rintro ⟨hrule, hlhs, h⟩
    obtain ⟨rule, lhs, rhs⟩ := record
    simp only [ofProduction, mk.injEq]
    refine ⟨?_, ?_, ?_⟩
    · rw [hrule]
      apply UInt16.ofNat_toNat
    · rw [hlhs]
      apply UInt16.ofNat_toNat
    · rw [← hrhs] at h
      exact List.map_injective_iff.mpr (fun _ _ => UInt16.toNat_inj.mp) h

end Record

namespace Grammar

theorem isReserved_eq_true_iff {s : Symbol} :
    isReserved s = true ↔ s ∈ Symbol.reserved := by
  simp [isReserved, Symbol.reserved, or_assoc]

theorem find?_isReserved_eq_some {before : List Symbol} {s : Symbol} (after : List Symbol)
    (hbefore : ∀ u ∈ before, u ∉ Symbol.reserved)
    (h : s ∈ Symbol.reserved) :
    (before ++ s :: after).find? isReserved = some s := by
  rw [List.find?_eq_some_iff_append]
  refine ⟨isReserved_eq_true_iff.mpr h, before, after, rfl, fun u hu => ?_⟩
  rw [Bool.not_eq_true', Bool.eq_false_iff, Ne, isReserved_eq_true_iff]
  apply hbefore u hu

theorem find?_isReserved_eq_none {symbols : List Symbol}
    (h : ∀ u ∈ symbols, u ∉ Symbol.reserved) :
    symbols.find? isReserved = none := by
  rw [List.find?_eq_none]
  intro u hu
  rw [isReserved_eq_true_iff]
  apply h u hu

theorem exists_first_reserved {symbols : List Symbol}
    (h : ¬ ∀ u ∈ symbols, u ∉ Symbol.reserved) :
    ∃ before s after, symbols = before ++ s :: after ∧ s ∈ Symbol.reserved
      ∧ ∀ u ∈ before, u ∉ Symbol.reserved := by
  cases hfind : symbols.find? isReserved with
  | none =>
    simp only [List.find?_eq_none, isReserved_eq_true_iff] at hfind
    exact absurd hfind h
  | some s =>
    obtain ⟨hs, before, after, rfl, hbefore⟩ := List.find?_eq_some_iff_append.mp hfind
    refine ⟨before, s, after, rfl, isReserved_eq_true_iff.mp hs, fun u hu => ?_⟩
    have := hbefore u hu
    rwa [Bool.not_eq_true', Bool.eq_false_iff, Ne, isReserved_eq_true_iff] at this

theorem resolve_eq_ok (r : Rule) {ids : List UInt16} {symbols : List Symbol}
    (h : symbols.map Symbol.id = ids.map UInt16.toNat) : resolve r ids = .ok symbols := by
  induction ids generalizing symbols with
  | nil =>
    obtain rfl : symbols = [] := by simpa using h
    rfl
  | cons id ids ih =>
    obtain ⟨s, ss, rfl, hs, hss⟩ := List.map_eq_cons_iff.mp h
    simp only [resolve, Symbol.ofId?_eq_some_iff.mpr hs, ih hss]

theorem resolve_eq_error (r : Rule) {before : List UInt16} {id : UInt16} (after : List UInt16)
    (hbefore : ∀ i ∈ before, i.toNat < Symbol.all.length) (h : Symbol.all.length ≤ id.toNat) :
    resolve r (before ++ id :: after) = .error (.undefinedSymbol r id) := by
  induction before with
  | nil => simp only [List.nil_append, resolve, Symbol.ofId?_eq_none_iff.mpr h]
  | cons i before ih =>
    obtain ⟨hi, hbefore⟩ := List.forall_mem_cons.mp hbefore
    cases hs : Symbol.ofId? i.toNat with
    | none =>
      have := Symbol.ofId?_eq_none_iff.mp hs
      omega
    | some s => simp only [List.cons_append, resolve, hs, ih hbefore]

/--
The ids of a list name symbols, or there is a first one that does not.
-/
theorem exists_symbols_or_undefined (ids : List UInt16) :
    (∃ symbols : List Symbol, symbols.map Symbol.id = ids.map UInt16.toNat)
      ∨ ∃ before id after, ids = before ++ id :: after
        ∧ (∀ i ∈ before, i.toNat < Symbol.all.length) ∧ Symbol.all.length ≤ id.toNat := by
  induction ids with
  | nil => exact .inl ⟨[], rfl⟩
  | cons id ids ih =>
    cases hs : Symbol.ofId? id.toNat with
    | none => exact .inr ⟨[], id, ids, rfl, by simp, Symbol.ofId?_eq_none_iff.mp hs⟩
    | some s =>
      have hid := Symbol.ofId?_eq_some_iff.mp hs
      obtain ⟨symbols, hsymbols⟩ | ⟨before, i, after, rfl, hbefore, hi⟩ := ih
      · exact .inl ⟨s :: symbols, by simp [hid, hsymbols]⟩
      · refine .inr ⟨id :: before, i, after, rfl, ?_, hi⟩
        exact List.forall_mem_cons.mpr ⟨hid ▸ s.id_lt, hbefore⟩

theorem check_of_blames {position : Nat} {record : Record} {e : LoadError}
    (h : record.Blames position e) : check position record = .error e := by
  cases h with
  | undefinedRule h => simp only [check, Rule.ofId?_eq_none_iff.mpr h]
  | ruleOutOfOrder hrule h => simp only [check, Rule.ofId?_eq_some_iff.mpr hrule, if_pos h]
  | undefinedLhs hrule hposition h =>
    simp [check, Rule.ofId?_eq_some_iff.mpr hrule, hposition, Symbol.ofId?_eq_none_iff.mpr h]
  | terminalLhs hrule hposition hlhs h =>
    simp [check, Rule.ofId?_eq_some_iff.mpr hrule, hposition, Symbol.ofId?_eq_some_iff.mpr hlhs, h]
  | lhsMismatch hrule hposition hlhs hkind h =>
    simp [check, Rule.ofId?_eq_some_iff.mpr hrule, hposition, Symbol.ofId?_eq_some_iff.mpr hlhs,
      hkind, h]
  | undefinedRhs hrule hposition hlhs hrhs hbefore h =>
    simp [check, Rule.ofId?_eq_some_iff.mpr hrule, hposition, Symbol.ofId?_eq_some_iff.mpr hlhs,
      Rule.isNonterminal_lhs, hrhs, resolve_eq_error _ _ hbefore h]
  | reservedSymbol hrule hposition hlhs hrhs hbefore h =>
    simp [check, Rule.ofId?_eq_some_iff.mpr hrule, hposition, Symbol.ofId?_eq_some_iff.mpr hlhs,
      Rule.isNonterminal_lhs, resolve_eq_ok _ hrhs, find?_isReserved_eq_some _ hbefore h]
  | arityMismatch hrule hposition hlhs hrhs hfree h =>
    simp [check, Rule.ofId?_eq_some_iff.mpr hrule, hposition, Symbol.ofId?_eq_some_iff.mpr hlhs,
      Rule.isNonterminal_lhs, resolve_eq_ok _ hrhs, find?_isReserved_eq_none hfree, h]
  | rhsMismatch hrule hposition hlhs hrhs hfree harity h =>
    simp [check, Rule.ofId?_eq_some_iff.mpr hrule, hposition, Symbol.ofId?_eq_some_iff.mpr hlhs,
      Rule.isNonterminal_lhs, resolve_eq_ok _ hrhs, find?_isReserved_eq_none hfree, harity, h]

theorem check_eq_ok {r : Rule} {record : Record} (h : .ofRule r = record) :
    check r.id record = .ok r.production := by
  obtain ⟨hrule, hlhs, hrhs⟩ := Record.ofProduction_eq_iff.mp h
  simp [check, Rule.ofId?_eq_some_iff.mpr hrule, Symbol.ofId?_eq_some_iff.mpr hlhs,
    resolve_eq_ok r hrhs, find?_isReserved_eq_none r.free_rhs, Rule.production,
    Rule.isNonterminal_lhs, Rule.arity]

theorem exists_blames_rhs {r : Rule} {record : Record} (h : .ofRule r ≠ record)
    (hrule : r.id = record.rule.toNat) (hlhs : r.lhs.id = record.lhs.toNat) :
    ∃ e, record.Blames r.id e := by
  obtain ⟨rhs, hrhs⟩ | ⟨before, id, after, hrhs, hbefore, hid⟩ :=
    exists_symbols_or_undefined record.rhs
  · by_cases hfree : ∀ u ∈ rhs, u ∉ Symbol.reserved
    · by_cases harity : rhs.length = r.arity
      · have hne : rhs ≠ r.rhs := by
          rintro rfl
          exact h (Record.ofProduction_eq_iff.mpr ⟨hrule, hlhs, hrhs⟩)
        exact ⟨_, .rhsMismatch hrule rfl hlhs hrhs hfree harity hne⟩
      · exact ⟨_, .arityMismatch hrule rfl hlhs hrhs hfree harity⟩
    · -- The first reserved symbol is the one that is reported.
      obtain ⟨before, s, after, rfl, hs, hbefore⟩ := exists_first_reserved hfree
      exact ⟨_, .reservedSymbol hrule rfl hlhs hrhs hbefore hs⟩
  · exact ⟨_, .undefinedRhs hrule rfl hlhs hrhs hbefore hid⟩

/--
No record escapes the checks: it restates the rule at its position, or it fails one of them.
-/
theorem exists_blames {r : Rule} {record : Record} (h : .ofRule r ≠ record) :
    ∃ e, record.Blames r.id e := by
  cases hr : Rule.ofId? record.rule.toNat with
  | none => exact ⟨_, .undefinedRule (Rule.ofId?_eq_none_iff.mp hr)⟩
  | some found =>
    have hrule := Rule.ofId?_eq_some_iff.mp hr
    by_cases hposition : found.id = r.id
    · obtain rfl := Rule.id_injective hposition
      cases hs : Symbol.ofId? record.lhs.toNat with
      | none => exact ⟨_, .undefinedLhs hrule rfl (Symbol.ofId?_eq_none_iff.mp hs)⟩
      | some lhs =>
        have hlhs := Symbol.ofId?_eq_some_iff.mp hs
        by_cases hkind : lhs.isNonterminal
        · by_cases heq : lhs = found.lhs
          · subst heq
            exact exists_blames_rhs h hrule hlhs
          · exact ⟨_, .lhsMismatch hrule rfl hlhs hkind heq⟩
        · exact ⟨_, .terminalLhs hrule rfl hlhs hkind⟩
    · exact ⟨_, .ruleOutOfOrder hrule hposition⟩

theorem checkAll_append {rules : List Rule} {position : Nat} (records : List Record)
    (h : rules.map Rule.id = List.range' position rules.length) :
    checkAll position (rules.map Record.ofRule ++ records)
      =
    (checkAll (position + rules.length) records).map (rules.map Rule.production ++ ·) := by
  induction rules generalizing position with
  | nil =>
    simp only [List.map_nil, List.nil_append, List.length_nil, Nat.add_zero]
    cases checkAll position records <;> rfl
  | cons r rules ih =>
    simp only [List.map_cons, List.length_cons, List.range'_succ, List.cons.injEq] at h
    obtain ⟨rfl, h⟩ := h
    simp only [List.map_cons, List.cons_append, checkAll, check_eq_ok rfl, ih h]
    rw [List.length_cons, Nat.add_comm rules.length, ← Nat.add_assoc]
    cases checkAll (r.id + 1 + rules.length) records <;> rfl

/--
Records of the right number that are not those of the rules have a first one that is not.
-/
theorem exists_first_wrong {rules : List Rule} {records : List Record}
    (hlen : records.length = rules.length)
    (hne : records ≠ rules.map Record.ofRule) :
    ∃ before r after record more, rules = before ++ r :: after
      ∧ records = before.map Record.ofRule ++ record :: more
      ∧ .ofRule r ≠ record := by
  induction rules generalizing records with
  | nil => exact absurd (List.length_eq_zero_iff.mp hlen) hne
  | cons r rules ih =>
    obtain ⟨record, records, rfl⟩ := List.exists_cons_of_length_eq_add_one hlen
    by_cases hr : .ofRule r = record
    · subst hr
      obtain ⟨before, r', after, record, more, rfl, rfl, h⟩ :=
        ih (Nat.add_right_cancel hlen) (fun heq => hne (by rw [heq]; rfl))
      exact ⟨r :: before, r', after, record, more, rfl, rfl, h⟩
    · exact ⟨[], r, rules, record, records, rfl, rfl, hr⟩

theorem ofRecords_standard : ofRecords Record.standard = .ok standard := by
  have h := @checkAll_append Rule.all 0 [] rfl
  rw [List.append_nil] at h
  show (checkAll 0 Record.standard).map ofProductions = .ok standard
  exact congrArg (Except.map ofProductions) h

theorem toRecords_standard : standard.toRecords = Record.standard := List.map_map

theorem map_id_eq_range' {before after : List Rule} (h : Rule.all = before ++ after) :
    before.map Rule.id = List.range' 0 before.length := by
  have hids : Rule.all.map Rule.id = List.range' 0 Rule.all.length := rfl
  rw [h, List.map_append, List.length_append, ← List.range'_append_1] at hids
  exact List.append_inj_left hids (by simp)

/--
A table of the right length that is not the standard one has a first wrong record, and loading
fails with the error that this record causes.
-/
theorem exists_blamed {records : List Record} (hlen : records.length = 62)
    (hne : records ≠ Record.standard) :
    ∃ i record e, records[i]? = some record ∧ Record.standard[i]? ≠ some record
      ∧ records.take i = Record.standard.take i ∧ record.Blames i e
      ∧ ofRecords records = .error e := by
  obtain ⟨before, r, after, record, more, hall, rfl, hr⟩ := exists_first_wrong hlen hne
  have hid : r.id = before.length := by
    apply Rule.ofId?_eq_some_iff.mp
    simp [Rule.ofId?, hall]
  have hstandard : Record.standard = before.map Record.ofRule
      ++ .ofRule r :: after.map Record.ofRule := by
    rw [Record.standard_eq, hall, List.map_append, List.map_cons]
  obtain ⟨e, he⟩ := exists_blames hr
  refine ⟨before.length, record, e, by simp, ?_, ?_, hid ▸ he, ?_⟩
  · rw [hstandard]
    simpa using hr
  · rw [hstandard, List.take_left' (by simp), List.take_left' (by simp)]
  · have hbefore := checkAll_append (record :: more) (map_id_eq_range' hall)
    rw [Nat.zero_add, ← hid, checkAll, check_of_blames he] at hbefore
    unfold ofRecords
    rw [hbefore]
    exact if_neg (not_not.mpr hlen)

/--
Loading a table succeeds if and only if it is the standard table, and the grammar that it yields has
that table again. A table of the right length that differs from it is refused because of the first
record that differs: the error is the first check that this record fails at its position, so that
the records behind it do not matter.
-/
theorem ofRecords_exact (records : List Record) :
    ((∃ g, ofRecords records = .ok g) ↔ records = Record.standard)
      ∧ (∀ g, ofRecords records = .ok g → g.toRecords = records)
      ∧ (records.length ≠ 62 → ofRecords records = .error (.ruleCount records.length))
      ∧ (records.length = 62 → records ≠ Record.standard →
        ∃ i record, records[i]? = some record ∧ Record.standard[i]? ≠ some record
          ∧ records.take i = Record.standard.take i
          ∧ ∀ e, ofRecords records = .error e ↔ record.Blames i e) := by
  have hcount (h : records.length ≠ 62) : ofRecords records = .error (.ruleCount records.length) :=
    if_pos h
  have hok {g : Grammar} (h : ofRecords records = .ok g) : records = Record.standard := by
    by_contra hne
    by_cases hlen : records.length = 62
    · obtain ⟨_, _, e, -, -, -, -, he⟩ := exists_blamed hlen hne
      simp [he] at h
    · simp [hcount hlen] at h
  refine ⟨⟨fun ⟨g, hg⟩ => hok hg, ?_⟩, ?_, hcount, ?_⟩
  · rintro rfl
    exact ⟨standard, ofRecords_standard⟩
  · intro g hg
    obtain rfl := hok hg
    obtain rfl := Except.ok.inj (ofRecords_standard.symm.trans hg)
    exact toRecords_standard
  · intro hlen hne
    obtain ⟨i, record, e, hrecord, hdiffers, htake, hblames, he⟩ := exists_blamed hlen hne
    refine ⟨i, record, hrecord, hdiffers, htake, fun e' => ?_⟩
    constructor
    · intro he'
      rwa [← Except.error.inj (he.symm.trans he')]
    · intro h
      -- A record blames one error only, as the check of its position has one result.
      rw [he, Except.error.inj ((check_of_blames hblames).symm.trans (check_of_blames h))]

end Grammar

end StartEnd
