import ExprLex.Proofs.Scanner.Reflection
import ExprLex.Proofs.Scanner.Stage
import ExprLex.Proofs.Token.Nesting

/-!
# Nesting of Expressions

The nesting of an expression is seen four times: in the brackets of its text, in the log that is
written while it is read, in the brackets among its tokens, and in the depths at which the tokens
are shown. The log is ahead of the tokens by the lexeme in progress, and the multiplications that
were not written shift the tokens against the text. What is in step at every state is the log and
the draft: the log has the brackets of the draft with the depths behind them
(`logged_of_feed`). When an expression was read, all four views agree (`sameNesting_of_read`).
-/

namespace ExprLex

/-! ## The agreement of the views -/

/-- The depth behind the first entries of a log. -/
def BracketLog.depthBehind (log : BracketLog) (count : Nat) : Int :=
  ((log.entries.take count).getLast?.map BracketEntry.depth).getD 0

/-- The text, the log and the tokens of an expression show the same nesting. -/
structure SameNesting (expression : String) (log : BracketLog) (tokens : List Token) : Prop where
  /-- The log has the brackets of the text with their places. -/
  text : log.entries.map (fun entry => (entry.bracket.symbol, entry.position)) =
    (Text.brackets expression.toList).map fun (c, i) => (c, (i : Int))
  /-- The log has the brackets among the tokens. The depth shown for a left bracket is that behind
  it, and for a right bracket one more. -/
  shown : Nesting.shownBrackets tokens =
    log.entries.map fun entry => (entry.bracket, entry.bracket.shownAt entry.depth)
  /-- No level is closed that was not opened. -/
  nonneg : ∀ entry ∈ log.entries, 0 ≤ entry.depth
  /-- All levels are closed at the end. -/
  closed : log.depth = 0
  /-- No token is shown below depth zero. -/
  shown_nonneg : ∀ shown ∈ bracketDepths 0 tokens, 0 ≤ shown
  /-- A token that is no bracket is shown at the depth behind the last bracket before it. -/
  other : ∀ i token, tokens[i]? = some token → token.bracket? = none →
    (bracketDepths 0 tokens)[i]? =
      some (log.depthBehind ((tokens.take i).filterMap Token.bracket?).length)
  /-- Every left bracket has one partner. -/
  partner : ∀ i, tokens[i]? = some (.bracket .left) → ∃! j, Nesting.Partners tokens i j
  /-- Partners are shown at one depth, and nothing between them is shown below it. -/
  level : ∀ i j, Nesting.Partners tokens i j →
    ∃ level, (bracketDepths 0 tokens)[i]? = some level ∧
      (bracketDepths 0 tokens)[j]? = some level ∧
        ∀ k shown, i < k → k < j → (bracketDepths 0 tokens)[k]? = some shown → level ≤ shown

namespace Pending

/-- What a lexeme adds to a log, without its position. -/
def traced (depth : Int) : Pending → List (Bracket × Int)
  | .leftBracket => [(.left, depth + 1)]
  | .rightBracket => [(.right, depth - 1)]
  | _ => []

end Pending

namespace BracketLog

/-- The brackets of a log with the depths behind them. -/
def trace (log : BracketLog) : List (Bracket × Int) :=
  log.entries.map fun entry => (entry.bracket, entry.depth)

/-- A lexeme is traced behind the log if it is a bracket. -/
theorem trace_logged (log : BracketLog) (position : Int) (p : Pending) :
    (p.logged position log).trace = log.trace ++ p.traced log.depth := by
  cases p with
  | leftBracket => rw [trace, Pending.logged, entries_opened, List.map_append]; rfl
  | rightBracket => rw [trace, Pending.logged, entries_closed, List.map_append]; rfl
  | _ => exact (List.append_nil _).symm

/-- The depth of the log is the last one that was traced. -/
theorem depth_eq_getLast? (log : BracketLog) :
    log.depth = (log.trace.getLast?.map Prod.snd).getD 0 := by
  rw [trace, List.getLast?_map, entries, List.getLast?_reverse, depth]
  cases log.newestFirst <;> rfl

/-- The depth behind some brackets is the one that was traced at the last of them. -/
theorem depthBehind_eq (log : BracketLog) (count : Nat) :
    log.depthBehind count = ((log.trace.take count).getLast?.map Prod.snd).getD 0 := by
  rw [trace, ← List.map_take, List.getLast?_map, Option.map_map]
  rfl

end BracketLog

namespace Scanner

open Nesting

variable {table : OperatorTable} {s s' : Scanner} {c : Char} {p : Pending}

/-! ## The log and the draft -/

/-- The log of a state has the brackets of its draft with the depths behind them. -/
def Logged (table : OperatorTable) (s : Scanner) : Prop :=
  s.brackets.trace = Nesting.trace 0 (s.draft table)

/-- The token of a lexeme is traced as the lexeme is. -/
theorem trace_draftToken? (table : OperatorTable) (symbol : String) (p : Pending) (depth : Int) :
    Nesting.trace depth (draftToken? table symbol p).toList = p.traced depth := by
  -- the token of an operator is no bracket, whichever operator it is
  have hoperator (op? : Option Operator) :
      Nesting.trace depth (op?.map Token.operator).toList = [] := by
    cases op? <;> rfl
  cases p with
  | sign | binary | postfixOp => exact hoperator _
  | _ => rfl

/-- A lexeme that begins is traced behind the tokens before it. -/
theorem trace_draft_begun (h : Begins table c s p) :
    Nesting.trace 0 ((s.begun table c p).draft table) =
      Nesting.trace 0 (s.draft table) ++ p.traced (balance (s.draft table)) := by
  -- between the draft and the new lexeme, there is at most a multiplication
  have hinserted (juxtaposed : Bool) (depth : Int) :
      Nesting.trace depth (if juxtaposed then [.operator .multiplication] else []) = [] ∧
        balance (if juxtaposed then [.operator .multiplication] else []) = 0 := by
    cases juxtaposed <;> exact ⟨rfl, rfl⟩
  rw [draft, toList_tokens_begun h.ne_lonePoint, symbol_begun, pending_begun, trace_append,
    trace_append, trace_draftToken?, balance_append, (hinserted _ _).1, (hinserted _ 0).2,
    List.append_nil, Int.add_zero, Int.zero_add]

theorem logged_reset (s : Scanner) (notice : Notice) : (s.reset.note notice).Logged table := rfl

/-- The log counts the same depth as the tokens. -/
theorem Logged.depth (hs : s.Logged table) : s.brackets.depth = balance (s.draft table) := by
  rw [BracketLog.depth_eq_getLast?, hs, getLast?_trace, Int.zero_add]

/-- A number that becomes longer is in neither trace. -/
theorem Logged.extend (hs : s.Logged table) (h : Extends c s.pending p) :
    (s.extend (String.singleton c) p).Logged table := by
  -- a number takes the place of another one
  have hdraft (symbol : String) {q : Pending} (hq : q.isNumber = true) :
      Nesting.trace 0 (s.tokens.toList ++ (draftToken? table symbol q).toList) =
        Nesting.trace 0 s.tokens.toList := by
    rw [draftToken?_of_isNumber hq, trace_append]
    exact List.append_nil _
  rw [Logged, draft, hdraft _ h.isNumber] at hs
  rw [Logged, draft, pending_extend]
  exact hs.trans (hdraft _ h.isNumber_right).symm

/-- A lexeme that begins is in both traces if it is a bracket, and in none otherwise. -/
theorem Logged.begun (hs : s.Logged table) (h : Begins table c s p) :
    (s.begun table c p).Logged table := by
  rw [Logged, brackets_begun, BracketLog.trace_logged, trace_draft_begun h, hs.depth, hs]

/-- **The log has the brackets of the draft** in every state that is reached. -/
theorem logged_of_feed {cs : List Char} (hs : s.Logged table)
    (h : feed table cs s = .ok () s') : s'.Logged table :=
  invariant_of_feed (fun _ s => s.Logged table) [] Logged.extend Logged.begun id hs h

/-! ## Complete states -/

/-- The depths that are shown at brackets are those of their entries in the log. -/
theorem Logged.shownBrackets (hs : s.Logged table) :
    Nesting.shownBrackets (s.draft table) =
      s.brackets.entries.map fun entry =>
        (entry.bracket, entry.bracket.shownAt entry.depth) := by
  rw [shownBrackets_eq, ← hs, BracketLog.trace, List.map_map]
  rfl

/-- The depth in front of a token is the one in the log behind the brackets before it. -/
theorem Logged.depthBehind (hs : s.Logged table) (i : Nat) :
    s.brackets.depthBehind (((s.draft table).take i).filterMap Token.bracket?).length =
      balance ((s.draft table).take i) := by
  rw [BracketLog.depthBehind_eq, hs, take_trace, getLast?_trace, Int.zero_add]

/-- In a complete state, the text that was read, the log and the draft show the same nesting. -/
theorem sameNesting_of_complete {expression : String}
    (hreflects : s.Reflects table expression.toList) (hlogged : s.Logged table)
    (hstaged : s.Staged table) (hcomplete : s.Complete) :
    SameNesting expression s.brackets (s.draft table) := by
  obtain ⟨depth, hdepth, hstage⟩ := hstaged.stage
  -- the stages count open brackets by a natural number, so that none is closed too early
  have habove : StaysAbove (s.draft table) := staysAbove_of_after? hstage
  have hclosed : s.brackets.depth = 0 := by
    have hle := hcomplete.depth_le
    omega
  refine ⟨hreflects.log, hlogged.shownBrackets, ?_, hclosed, ?_, ?_, ?_, ?_⟩
  · intro entry hentry
    have hmem : (entry.bracket, entry.depth) ∈ Nesting.trace 0 (s.draft table) := by
      rw [← hlogged]
      exact List.mem_map_of_mem hentry
    exact habove.le_trace hmem
  · intro shown hshown
    exact habove.le_shown hshown
  · intro i token htoken hother
    rw [getElem?_bracketDepths htoken, Token.shownFrom_of_bracket?_eq_none hother,
      hlogged.depthBehind, Int.zero_add]
  · intro i hi
    -- the brackets are balanced, and in balanced tokens partners exist and are unique
    exact existsUnique_partner habove (hlogged.depth ▸ hclosed) hi
  · intro i j hpartners
    exact hpartners.shown

end Scanner

/-- **One nesting.** When an expression was read, by whatever scanner, the brackets of the text,
the log, the brackets among the tokens and the depths at which the tokens are shown agree, and so
do partners. -/
theorem sameNesting_of_read {table : OperatorTable} {expression : String}
    {before after : Scanner} {tokens : List Token}
    (h : Scanner.readExpression table expression before = .ok tokens after) :
    SameNesting expression after.brackets tokens := by
  obtain ⟨s, hfeed, hcomplete, rfl, rfl⟩ := Scanner.readExpression_eq_ok_iff.mp h
  have hreflects := Scanner.reflects_of_feed ⟨rfl, .empty, rfl, rfl, rfl, rfl⟩ hfeed
  have hstaged := Scanner.staged_of_feed ⟨.empty, fun _ => rfl, 0, rfl, rfl⟩ hfeed
  have hlogged := Scanner.logged_of_feed (Scanner.logged_reset before _) hfeed
  rw [Scanner.toList_tokens_commit_eq_draft hcomplete.ne_lonePoint]
  show SameNesting expression (s.commit table).brackets (s.draft table)
  rw [Scanner.brackets_commit]
  exact Scanner.sameNesting_of_complete hreflects hlogged hstaged hcomplete

/-- In `2((3)4)`, two multiplications were not written, one between the brackets. -/
theorem sameNesting_nested : ∃ after,
    Scanner.readExpression .standard "2((3)4)" .fresh =
      .ok [.number "2", .operator .multiplication, .bracket .left, .bracket .left, .number "3",
        .bracket .right, .operator .multiplication, .number "4", .bracket .right] after ∧
      SameNesting "2((3)4)" after.brackets
        [.number "2", .operator .multiplication, .bracket .left, .bracket .left, .number "3",
          .bracket .right, .operator .multiplication, .number "4", .bracket .right] :=
  ⟨_, rfl, sameNesting_of_read rfl⟩

end ExprLex
