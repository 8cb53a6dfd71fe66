import StartEnd.Proofs.Parser.Session

/-!
This module contains the proof that a parser has no memory between parses. Nothing that a parse
leaves behind, wherever it has stopped, shows in the next one, and no parse changes what the parser
has been given.
-/

namespace StartEnd

namespace Parser

/--
What may be asked of a parser.
-/
inductive Call where
  | parse
  | withMaxDepth (maxDepth : Nat)
  | withLog (log : StepLog)
  | takeLog

def call (p : Parser) : Call → Parser
  | .parse => p.parse.2
  | .withMaxDepth maxDepth => p.withMaxDepth maxDepth
  | .withLog log => p.withLog log
  | .takeLog => p.takeLog.2

def after (p : Parser) (calls : List Call) : Parser := calls.foldl call p

/--
What a parser is set to: the nesting limit, and the limit of its log if it has one.
-/
structure Settings where
  maxDepth : Nat := defaultDepth
  limit : Option Nat := none

/--
What a call makes of the settings. A parse does not change them.
-/
def Settings.call (s : Settings) : Call → Settings
  | .parse => s
  | .withMaxDepth maxDepth => { s with maxDepth }
  | .withLog log => { s with limit := some log.limit }
  | .takeLog => { s with limit := none }

/--
A new parser with an empty log.
-/
def fresh (grammar : Grammar) (tokens : List Token) (s : Settings) : Parser :=
  { ofTokens grammar tokens with
    maxDepth := s.maxDepth
    log := s.limit.map fun limit => { limit } }

/--
Whether a parser has been made of tokens and is set in a given way. It may have parsed before.
-/
structure MadeOf (grammar : Grammar) (tokens : List Token) (s : Settings) (p : Parser) : Prop where
  grammar : p.grammar = grammar
  tokens : p.tokens = Session.completed tokens
  maxDepth : p.maxDepth = s.maxDepth
  limit : p.log.map StepLog.limit = s.limit

theorem parse_keeps (p : Parser) :
    p.parse.2.grammar = p.grammar ∧ p.parse.2.tokens = p.tokens
      ∧ p.parse.2.maxDepth = p.maxDepth
      ∧ p.parse.2.log.map StepLog.limit = p.log.map StepLog.limit := by
  obtain ⟨-, hsession⟩ := p.parse_toSession
  refine ⟨?_, ?_, ?_, ?_⟩
  · rw [hsession]
    rfl
  · rw [hsession]
    rfl
  · rw [hsession]
    rfl
  · rw [hsession]
    show Option.map _ (Option.map _ p.log) = _
    rw [Option.map_map]
    apply Option.map_congr
    intro log hlog
    exact StepLog.limit_pushAll log.clear _

variable {grammar : Grammar} {tokens : List Token} {s : Settings} {p : Parser}

theorem MadeOf.call (h : p.MadeOf grammar tokens s) (c : Call) :
    (p.call c).MadeOf grammar tokens (s.call c) := by
  cases c with
  | parse =>
    obtain ⟨hgrammar, htokens, hmaxDepth, hlimit⟩ := p.parse_keeps
    exact ⟨hgrammar.trans h.grammar, htokens.trans h.tokens, hmaxDepth.trans h.maxDepth,
      hlimit.trans h.limit⟩
  | withMaxDepth maxDepth => exact ⟨h.grammar, h.tokens, rfl, h.limit⟩
  | withLog log => exact ⟨h.grammar, h.tokens, h.maxDepth, rfl⟩
  | takeLog => exact ⟨h.grammar, h.tokens, h.maxDepth, rfl⟩

theorem MadeOf.after (h : p.MadeOf grammar tokens s) (calls : List Call) :
    (p.after calls).MadeOf grammar tokens (calls.foldl Settings.call s) := by
  induction calls generalizing p s with
  | nil => exact h
  | cons c calls ih => exact ih (h.call c)

/--
All that is left of a parser that forgets its last parse is what it has been made of and is set to.
-/
theorem MadeOf.reset (h : p.MadeOf grammar tokens s) : p.reset = (fresh grammar tokens s).reset := by
  have hlog : p.log.map StepLog.clear = (fresh grammar tokens s).log.map StepLog.clear := by
    unfold fresh
    rw [← h.limit, Option.map_map, Option.map_map]
    rfl
  unfold Parser.reset
  rw [hlog, h.grammar, h.tokens, h.maxDepth]
  rfl

theorem MadeOf.parse (h : p.MadeOf grammar tokens s) : p.parse = (fresh grammar tokens s).parse := by
  unfold Parser.parse
  rw [h.reset]

/--
A parser has no memory between parses. After any calls it parses as a new parser does that has been
made of the same tokens and is set in the same way, up to the state in which it is left, and so it
would whatever it had been left with. No parse changes the tokens or a setting.
-/
theorem parse_after (grammar : Grammar) (tokens : List Token) (calls : List Call) :
    let current := (ofTokens grammar tokens).after calls
    let settings := calls.foldl Settings.call {}
    current.parse = (fresh grammar tokens settings).parse
      ∧ (∀ position stack reporter expected depth,
        let left : Parser := { current with position, stack, reporter, expected, depth }
        left.parse = (fresh grammar tokens settings).parse)
      ∧ ∀ p : Parser, p.parse.2.grammar = p.grammar ∧ p.parse.2.tokens = p.tokens
        ∧ p.parse.2.maxDepth = p.maxDepth
        ∧ p.parse.2.log.map StepLog.limit = p.log.map StepLog.limit := by
  intro current settings
  have hmade : (ofTokens grammar tokens).MadeOf grammar tokens {} := ⟨rfl, rfl, rfl, rfl⟩
  have hcurrent : current.MadeOf grammar tokens settings := hmade.after calls
  refine ⟨hcurrent.parse, ?_, parse_keeps⟩
  intro position stack reporter expected depth left
  have hleft : left.MadeOf grammar tokens settings :=
    ⟨hcurrent.grammar, hcurrent.tokens, hcurrent.maxDepth, hcurrent.limit⟩
  exact hleft.parse

end Parser

end StartEnd
