import ExprLex.Proofs.Scanner.Move
import ExprLex.Tokenization

/-!
# Runs of the Scanner

Reading characters one after the other is compositional, and what every move preserves holds
after every run. An expression is accepted if the run over its characters succeeds and the state
at its end is complete: no operand is owed and no bracket is open.
-/

namespace ExprLex

/-- Whether the lexeme may be the last one of an expression, as far as operands go. -/
def Pending.mayEnd : Pending → Bool
  | .lonePoint | .sign | .binary => false
  | _ => true

theorem Pending.mayEnd_of_endsOperand {p : Pending} (h : p.endsOperand = true) :
    p.mayEnd = true := by
  cases p <;> first | rfl | cases h

theorem Pending.ne_lonePoint_of_mayEnd {p : Pending} (h : p.mayEnd = true) : p ≠ .lonePoint := by
  rintro rfl
  cases h

namespace Scanner

variable {table : OperatorTable} {s s' : Scanner}

/-! ## Characters one after the other -/

/-- Reading a text is a move for its first character and then reading the rest. -/
theorem feed_cons_eq_ok_iff {c : Char} {cs : List Char} :
    feed table (c :: cs) s = .ok () s' ↔
      ∃ read, Move table c s read ∧ feed table cs read.advance = .ok () s' := by
  simp only [feed]
  cases h : readChar table c s with
  | ok _ read =>
    constructor
    · intro hrest
      exact ⟨read, readChar_eq_ok_iff.mp h, hrest⟩
    · intro h'
      rcases h' with ⟨read', hmove, hrest⟩
      rw [readChar_eq_ok_iff.mpr hmove] at h
      cases h
      exact hrest
  | error e failed =>
    constructor
    · intro hfail
      cases hfail
    · intro h'
      rcases h' with ⟨read', hmove, -⟩
      rw [readChar_eq_ok_iff.mpr hmove] at h
      cases h

/-- A text is read by reading its two parts one after the other. -/
theorem feed_append (xs ys : List Char) :
    feed table (xs ++ ys) s =
      match feed table xs s with
      | .ok _ read => feed table ys read
      | .error e failed => .error e failed := by
  induction xs generalizing s with
  | nil => rfl
  | cons c rest ih =>
    simp only [List.cons_append, feed]
    cases readChar table c s with
    | ok _ read => exact ih
    | error e failed => rfl

/-- A text can be read exactly if its first part can and then its second part. -/
theorem feed_append_eq_ok_iff {xs ys : List Char} :
    feed table (xs ++ ys) s = .ok () s' ↔
      ∃ read, feed table xs s = .ok () read ∧ feed table ys read = .ok () s' := by
  rw [feed_append]
  cases feed table xs s with
  | ok _ read => simp
  | error e failed => simp

/-- **Runs preserve what moves preserve.** A property of the text read so far and of the state holds
after a run if it holds before and each move keeps it. -/
theorem invariant_of_moves (P : List Char → Scanner → Prop) (read : List Char)
    (moved : ∀ {read s s' c}, P read s → Move table c s s' → P (read ++ [c]) s'.advance)
    {cs : List Char} (hs : P read s) (h : feed table cs s = .ok () s') : P (read ++ cs) s' := by
  -- induction on the characters, while the text that has been read grows at its end
  induction cs generalizing read s with
  | nil =>
    cases h
    simpa using hs
  | cons c rest ih =>
    obtain ⟨next, hmove, hrest⟩ := feed_cons_eq_ok_iff.mp h
    rw [List.append_cons]
    exact ih _ (moved hs hmove) hrest

/-- The same for a property of the visible text, if each longer lexeme and each new lexeme keeps it
and it does not depend on the position. -/
theorem invariant_of_feed (P : List Char → Scanner → Prop) (read : List Char)
    (extended : ∀ {read s c p}, P read s → Extends c s.pending p →
      P (read ++ [c]) (s.extend (String.singleton c) p))
    (begun : ∀ {read s c p}, P read s → Begins table c s p →
      P (read ++ [c]) (s.begun table c p))
    (advanced : ∀ {read s}, P read s → P read s.advance)
    {cs : List Char} (hs : P read s) (h : feed table cs s = .ok () s') :
    P (read ++ table.visible cs) s' := by
  refine invariant_of_moves (fun raw s => P (read ++ table.visible raw) s) [] ?_ ?_ h
  · intro raw s s' c hs hmove
    rw [OperatorTable.visible_append]
    cases hmove with
    | skipped hskip =>
      rw [OperatorTable.visible_cons_of_skips hskip, OperatorTable.visible_nil, List.append_nil]
      -- a blank adds nothing to the visible text
      exact advanced hs
    | extended hext =>
      rw [OperatorTable.visible_cons_of_not_skips hext.not_skips, OperatorTable.visible_nil,
        ← List.append_assoc]
      exact advanced (extended hs hext)
    | begun hbegin =>
      rw [OperatorTable.visible_cons_of_not_skips hbegin.not_skips, OperatorTable.visible_nil,
        ← List.append_assoc]
      exact advanced (begun hs hbegin)
  · simpa using hs

/-- **Runs simulate what moves simulate.** If two states are related and each move of the one has a
move of the other behind which they are related again, the same holds of runs. -/
theorem simulation_of_moves (R : Scanner → Scanner → Prop)
    (moved : ∀ {s t s' c}, R s t → Move table c s s' →
      ∃ t', Move table c t t' ∧ R s'.advance t'.advance)
    {cs : List Char} {t : Scanner} (hst : R s t) (h : feed table cs s = .ok () s') :
    ∃ t', feed table cs t = .ok () t' ∧ R s' t' := by
  induction cs generalizing s t with
  | nil =>
    cases h
    exact ⟨t, rfl, hst⟩
  | cons c rest ih =>
    obtain ⟨read, hmove, hrest⟩ := feed_cons_eq_ok_iff.mp h
    obtain ⟨next, hnext, hrelated⟩ := moved hst hmove
    obtain ⟨t', hfeed, ht'⟩ := ih hrelated hrest
    exact ⟨t', feed_cons_eq_ok_iff.mpr ⟨next, hnext, hfeed⟩, ht'⟩

/-! ## The end of an expression -/

/-- The state is one in which an expression may end. -/
structure Complete (s : Scanner) : Prop where
  /-- No digit and no operand is owed. -/
  mayEnd : s.pending.mayEnd = true
  /-- No bracket is open. -/
  depth_le : s.brackets.depth ≤ 0

theorem Complete.ne_lonePoint (h : s.Complete) : s.pending ≠ .lonePoint :=
  Pending.ne_lonePoint_of_mayEnd h.mayEnd

/-- Something is missing behind a state, and the error tells what. -/
inductive Owes (s : Scanner) : SyntaxError → Prop where
  /-- A digit for a number that is only a point so far. -/
  | digit : s.pending = .lonePoint → Owes s (.trailingPoint (s.position - 1))
  /-- The operand of an operator. -/
  | operand : s.pending = .sign ∨ s.pending = .binary →
      Owes s (.missingRight s.symbol (s.position - 1))
  /-- A right bracket, which is told at the newest bracket that was read. -/
  | bracket {entry : BracketEntry} {older : List BracketEntry} : s.pending.mayEnd = true →
      0 < s.brackets.depth → s.brackets.newestFirst = entry :: older →
      Owes s (.unmatchedLeft entry.position)

variable {e : SyntaxError}

/-- At the end of a text, the expression is complete or owes something. -/
theorem complete_or_owes (s : Scanner) : s.Complete ∨ ∃ e, s.Owes e := by
  cases hm : s.pending.mayEnd with
  | false =>
    right
    cases hp : s.pending with
    | lonePoint => exact ⟨_, .digit hp⟩
    | sign => exact ⟨_, .operand (.inl hp)⟩
    | binary => exact ⟨_, .operand (.inr hp)⟩
    | _ => rw [hp] at hm; cases hm
  | true =>
    by_cases hd : s.brackets.depth ≤ 0
    · exact .inl ⟨hm, hd⟩
    · obtain ⟨entry, older, hlog⟩ := BracketLog.exists_entry_of_depth_pos (Int.not_le.mp hd)
      exact .inr ⟨_, .bracket hm (Int.not_le.mp hd) hlog⟩

private theorem finish_of_complete (h : s.Complete) : finish s = .ok () s := by
  have hend := h.mayEnd
  unfold finish
  cases hp : s.pending with
  | lonePoint | sign | binary => rw [hp] at hend; cases hend
  | _ => exact dif_neg (Int.not_lt.mpr h.depth_le)

private theorem finish_of_owes (h : s.Owes e) : finish s = .error e s := by
  unfold finish
  cases h with
  | digit hp => simp only [hp]
  | operand hp => rcases hp with hp | hp <;> simp only [hp]
  | @bracket entry older hend hd hlog =>
    have hposition : s.brackets.openPosition hd = entry.position :=
      Except.ok.inj ((BracketLog.unmatchedOpen_eq_openPosition hd).symm.trans
        (BracketLog.unmatchedOpen_of_depth_pos hd hlog))
    rw [← hposition]
    cases hp : s.pending with
    | lonePoint | sign | binary => rw [hp] at hend; cases hend
    | _ => exact dif_pos hd

/-- The final check passes exactly in complete states, and changes nothing. -/
theorem finish_eq_ok_iff : finish s = .ok () s' ↔ s' = s ∧ s.Complete := by
  constructor
  · intro h
    rcases s.complete_or_owes with hcomplete | ⟨e, howes⟩
    · rw [finish_of_complete hcomplete] at h
      cases h
      exact ⟨rfl, hcomplete⟩
    · rw [finish_of_owes howes] at h
      cases h
  · rintro ⟨rfl, hcomplete⟩
    exact finish_of_complete hcomplete

/-- The final check fails exactly where something is missing, and changes nothing. -/
theorem finish_eq_error_iff : finish s = .error e s' ↔ s' = s ∧ s.Owes e := by
  constructor
  · intro h
    rcases s.complete_or_owes with hcomplete | ⟨e, howes⟩
    · rw [finish_of_complete hcomplete] at h
      cases h
    · rw [finish_of_owes howes] at h
      cases h
      exact ⟨rfl, howes⟩
  · rintro ⟨rfl, howes⟩
    exact finish_of_owes howes

/-! ## Whole expressions -/

/-- The state in which the reading of an expression begins. -/
def opening (expression : String) : Scanner :=
  fresh.reset.note (.started expression)

/-- A text cannot stand as the rest of an expression: a character of it cannot be read, or else
something is missing behind it. -/
def Rejects (table : OperatorTable) (cs : List Char) (s : Scanner) (e : SyntaxError)
    (failed : Scanner) : Prop :=
  feed table cs s = .error e failed ∨ feed table cs s = .ok () failed ∧ failed.Owes e

/-- A text is either read up to a complete expression or rejected with an error. -/
theorem completes_or_rejects (table : OperatorTable) (cs : List Char) (s : Scanner) :
    (∃ read, feed table cs s = .ok () read ∧ read.Complete) ∨
      ∃ e failed, Rejects table cs s e failed := by
  cases hfeed : feed table cs s with
  | error e failed => exact .inr ⟨e, failed, .inl hfeed⟩
  | ok _ read =>
    rcases read.complete_or_owes with hcomplete | ⟨e, howes⟩
    · exact .inl ⟨read, rfl, hcomplete⟩
    · exact .inr ⟨e, read, .inr ⟨hfeed, howes⟩⟩

variable {expression : String}

/-- The tokens of a complete expression are those committed so far and that of the last lexeme. -/
private theorem readExpression_of_complete {read : Scanner}
    (hfeed : feed table expression.toList (s.reset.note (.started expression)) = .ok () read)
    (hcomplete : read.Complete) :
    readExpression table expression s = .ok (read.commit table).tokens.toList
      ((read.commit table).note
        (.produced (read.commit table).tokens.size (read.commit table).implicit.size)) := by
  simp [readExpression, bind, EStateM.bind, hfeed, finish_of_complete hcomplete]

/-- A rejected expression leaves no tokens behind, and the error is noted. -/
private theorem readExpression_of_rejects {failed : Scanner}
    (h : Rejects table expression.toList (s.reset.note (.started expression)) e failed) :
    readExpression table expression s =
      .error e { failed.note (.rejected expression e) with tokens := #[], implicit := #[] } := by
  rcases h with hfail | ⟨hfeed, howes⟩
  · simp [readExpression, bind, EStateM.bind, hfail]
  · simp [readExpression, bind, EStateM.bind, hfeed, finish_of_owes howes]

/-- Reading an expression succeeds exactly if its characters can be read one after the other and
leave a complete state, whatever was read before. -/
theorem readExpression_eq_ok_iff {tokens : List Token} :
    readExpression table expression s = .ok tokens s' ↔
      ∃ read, feed table expression.toList (s.reset.note (.started expression)) = .ok () read ∧
        read.Complete ∧ tokens = (read.commit table).tokens.toList ∧
        s' = (read.commit table).note
          (.produced (read.commit table).tokens.size (read.commit table).implicit.size) := by
  constructor
  · intro h
    rcases completes_or_rejects table expression.toList
      (s.reset.note (.started expression)) with ⟨read, hfeed, hcomplete⟩ | ⟨e, failed, hfailed⟩
    · rw [readExpression_of_complete hfeed hcomplete] at h
      cases h
      exact ⟨read, hfeed, hcomplete, rfl, rfl⟩
    · rw [readExpression_of_rejects hfailed] at h
      cases h
  · intro h
    obtain ⟨read, hfeed, hcomplete, rfl, rfl⟩ := h
    exact readExpression_of_complete hfeed hcomplete

/-- Reading an expression fails exactly if a character of it cannot be read or something is missing
at its end. It then leaves no tokens. -/
theorem readExpression_eq_error_iff :
    readExpression table expression s = .error e s' ↔
      ∃ failed, Rejects table expression.toList (s.reset.note (.started expression)) e failed ∧
        s' = { failed.note (.rejected expression e) with tokens := #[], implicit := #[] } := by
  constructor
  · intro h
    rcases completes_or_rejects table expression.toList
      (s.reset.note (.started expression)) with ⟨read, hfeed, hcomplete⟩ | ⟨e', failed, hfailed⟩
    · rw [readExpression_of_complete hfeed hcomplete] at h
      cases h
    · rw [readExpression_of_rejects hfailed] at h
      cases h
      exact ⟨failed, hfailed, rfl⟩
  · intro h
    obtain ⟨failed, hfailed, rfl⟩ := h
    exact readExpression_of_rejects hfailed

end Scanner

/-- **Acceptance.** An expression is accepted exactly if its characters can be read one after the
other and leave a complete state; its tokens are those of that state, the last one committed. -/
theorem tokenize_eq_ok_iff {table : OperatorTable} {expression : String} {t : Tokenization} :
    tokenize table expression = .ok t ↔
      ∃ s, Scanner.feed table expression.toList (.opening expression) = .ok () s ∧ s.Complete
        ∧ t = ⟨(s.commit table).tokens.toList, s.implicit.toList⟩ := by
  unfold tokenize
  constructor
  · intro h
    cases hread : Scanner.readExpression table expression .fresh with
    | error e failed =>
      rw [hread] at h
      cases h
    | ok tokens last =>
      rw [hread] at h
      cases h
      obtain ⟨s, hfeed, hcomplete, rfl, rfl⟩ := Scanner.readExpression_eq_ok_iff.mp hread
      refine ⟨s, hfeed, hcomplete, ?_⟩
      simp [Scanner.note, Scanner.implicit_commit]
  · intro h
    obtain ⟨s, hfeed, hcomplete, rfl⟩ := h
    rw [Scanner.readExpression_eq_ok_iff.mpr ⟨s, hfeed, hcomplete, rfl, rfl⟩]
    simp [Scanner.note, Scanner.implicit_commit]

/-- **Refusal.** An expression is refused if a character of it cannot be read, or else if
something is missing at its end; the error tells the first of these. -/
theorem tokenize_eq_error_iff {table : OperatorTable} {expression : String} {e : SyntaxError} :
    tokenize table expression = .error e ↔
      (∃ s, Scanner.feed table expression.toList (.opening expression) = .error e s) ∨
        ∃ s, Scanner.feed table expression.toList (.opening expression) = .ok () s ∧ s.Owes e := by
  rw [← exists_or]
  unfold tokenize
  constructor
  · intro h
    cases hread : Scanner.readExpression table expression .fresh with
    | ok tokens last =>
      rw [hread] at h
      cases h
    | error e' last =>
      rw [hread] at h
      cases h
      obtain ⟨failed, hfailed, -⟩ := Scanner.readExpression_eq_error_iff.mp hread
      exact ⟨failed, hfailed⟩
  · intro h
    obtain ⟨failed, hfailed⟩ := h
    rw [Scanner.readExpression_eq_error_iff.mpr ⟨failed, hfailed, rfl⟩]

end ExprLex
