import ExprLex.Proofs.Scanner.Run
import ExprLex.Proofs.Text.Numeral

/-!
# The Lexeme in Progress

In every state that a scanner reaches, the text in progress spells a lexeme of the kind in
progress. Such a lexeme has a token, whose shape its kind tells; a lone point is taken for the
number that it may become. The draft of a state is the finished tokens and the token in progress.
-/

namespace ExprLex

namespace Scanner

/-- A text spells a lexeme of a kind. -/
inductive Spells (table : OperatorTable) : Pending → List Char → Prop where
  /-- Nothing has been read. -/
  | empty : Spells table .empty []
  /-- A number without a point. -/
  | integer {cs : List Char} : Text.IsInteger cs → Spells table .integer cs
  /-- A number with a point and a digit. -/
  | decimal {cs : List Char} : Text.IsDecimal cs → Spells table .decimal cs
  /-- A point that still lacks its digit. -/
  | lonePoint : Spells table .lonePoint ['.']
  | leftBracket : Spells table .leftBracket ['(']
  | rightBracket : Spells table .rightBracket [')']
  /-- An operator between two operands. -/
  | binary {c : Char} : table.actsAsBinary c = true → Spells table .binary [c]
  /-- A sign in front of its operand. -/
  | sign {c : Char} : table.actsAsSign c = true → Spells table .sign [c]
  /-- An operator behind its operand. -/
  | postfixOp {c : Char} : table.actsAsPostfix c = true → Spells table .postfixOp [c]

section Spelling

variable {table : OperatorTable} {c : Char} {cs : List Char} {s s' : Scanner} {p q : Pending}

/-- A lexeme that becomes longer is spelled by one more character. -/
theorem Extends.spells (h : Extends c p q) (hp : Spells table p cs) :
    Spells table q (cs ++ [c]) := by
  cases h with
  | integer hc =>
    cases hp with
    | integer hcs => exact .integer (hcs.append_digit hc)
  | decimal hc =>
    cases hp with
    | decimal hcs => exact .decimal (hcs.append_digit hc)
  | fraction hc =>
    cases hp with
    | lonePoint => exact .decimal (Text.isDecimal_point_digit hc)
  | point hc =>
    cases hp with
    | integer hcs =>
      subst hc
      exact .decimal hcs.append_point

/-- A lexeme that begins is spelled by the character it begins with. -/
theorem Begins.spells (h : Begins table c s p) : Spells table p [c] := by
  cases h with
  | digit hc => exact .integer (Text.isInteger_singleton hc)
  | point hc => subst hc; exact .lonePoint
  | left hc => subst hc; exact .leftBracket
  | right hc => subst hc; exact .rightBracket
  | sign hc => exact .sign hc
  | binary hc => exact .binary hc
  | postfixOp hc => exact .postfixOp hc

theorem Spells.isNumeric (h : Spells table p cs) (hp : p.isNumber = true) :
    ∀ c ∈ cs, Text.isNumeric c = true := by
  cases h with
  | integer hcs => exact hcs.isNumeral.1
  | decimal hcs => exact hcs.isNumeral.1
  | lonePoint => simp [Text.isNumeric]
  | _ => cases hp

theorem Spells.not_isNumeric (h : Spells table p cs) (hp : p.isNumber = false) :
    ∀ c ∈ cs, Text.isNumeric c = false := by
  cases h with
  | empty => simp
  | integer | decimal | lonePoint => cases hp
  | leftBracket | rightBracket => simp; decide
  | binary hc =>
    have hreserved := (OperatorTable.actsAsBinary_iff.mp hc).1
    simpa using Text.isNumeric_of_not_isReserved hreserved
  | sign hc =>
    have hreserved := (OperatorTable.actsAsSign_iff.mp hc).1
    simpa using Text.isNumeric_of_not_isReserved hreserved
  | postfixOp hc =>
    have hreserved := (OperatorTable.actsAsPostfix_iff.mp hc).1
    simpa using Text.isNumeric_of_not_isReserved hreserved

theorem Spells.eq_nil_iff (h : Spells table p cs) : cs = [] ↔ p = .empty := by
  cases h with
  | integer hcs => simp [hcs.1]
  | decimal hcs => obtain ⟨whole, fraction, rfl, -⟩ := hcs; simp
  | _ => simp

end Spelling

/-! ## Fields after a move -/

section Fields

variable {table : OperatorTable} {c : Char} {s s' : Scanner} {p : Pending}

@[simp] theorem pending_begun : (s.begun table c p).pending = p :=
  pending_next ..

@[simp] theorem symbol_begun : (s.begun table c p).symbol = String.singleton c :=
  symbol_next ..

@[simp] theorem brackets_begun :
    (s.begun table c p).brackets = p.logged s.position s.brackets := rfl

@[simp] theorem position_begun : (s.begun table c p).position = s.position :=
  position_next ..

theorem toList_notices_begun : (s.begun table c p).notices.toList = s.notices.toList ++
    if s.pending.endsOperand && p.startsFactor then [.inserted s.position] else [] :=
  toList_notices_next ..

@[simp] theorem pending_advance : s.advance.pending = s.pending := rfl

@[simp] theorem pending_extend {text : String} : (s.extend text p).pending = p := rfl

@[simp] theorem toList_symbol_extend :
    (s.extend (String.singleton c) p).symbol.toList = s.symbol.toList ++ [c] := by
  simp [extend]

/-- Reading a character does not change the position; only the advance behind it does. -/
theorem Move.position (h : Move table c s s') : s'.position = s.position := by
  cases h with
  | skipped | extended => rfl
  | begun => exact position_begun

/-- The position tells how many characters were read. -/
theorem position_of_feed {cs : List Char} (h : feed table cs s = .ok () s') :
    s'.position = s.position + cs.length := by
  refine invariant_of_moves (fun read s' => s'.position = s.position + read.length) [] ?_ ?_ h
  · intro read s s' c hs hmove
    show s'.position + 1 = _
    rw [hmove.position, hs, List.length_append]
    exact Int.add_assoc ..
  · exact (Int.add_zero _).symm

end Fields

/-! ## The draft -/

/-- The token of a lexeme in progress. A lone point is taken for the number that it may become. -/
def draftToken? (table : OperatorTable) (symbol : String) : Pending → Option Token
  | .lonePoint => some (.number symbol)
  | p => pendingToken? table symbol p

/-- The finished tokens and the token in progress. -/
def draft (table : OperatorTable) (s : Scanner) : List Token :=
  s.tokens.toList ++ (draftToken? table s.symbol s.pending).toList

/-- The draft of a token is the token that would be committed, unless it is for a point without
digits. -/
theorem draftToken?_eq_pendingToken? {table : OperatorTable} {symbol : String} {p : Pending}
    (h : p ≠ .lonePoint) : draftToken? table symbol p = pendingToken? table symbol p := by
  cases p with
  | lonePoint => exact absurd rfl h
  | _ => rfl

theorem draftToken?_of_isNumber {table : OperatorTable} {symbol : String} {p : Pending}
    (h : p.isNumber = true) : draftToken? table symbol p = some (.number symbol) := by
  cases p <;> first | rfl | cases h

section Draft

variable {table : OperatorTable} {c : Char} {s : Scanner} {p : Pending} {symbol : String}

/-- A commit makes the draft of the tokens final. -/
theorem toList_tokens_commit_eq_draft (h : s.pending ≠ .lonePoint) :
    (s.commit table).tokens.toList = s.draft table := by
  rw [toList_tokens_commit, draft, draftToken?_eq_pendingToken? h]

/-- What a new lexeme leaves finished: the draft so far and, between factors side by side, a
multiplication. -/
theorem toList_tokens_begun (h : s.pending ≠ .lonePoint) :
    (s.begun table c p).tokens.toList = s.draft table ++
      if s.pending.endsOperand && p.startsFactor then [.operator .multiplication] else [] := by
  rw [draft, draftToken?_eq_pendingToken? h]
  exact toList_tokens_next ..

/-- The index that is noted is the length of the draft, where the multiplication will stand. -/
theorem toList_implicit_begun (h : s.pending ≠ .lonePoint) :
    (s.begun table c p).implicit.toList = s.implicit.toList ++
      if s.pending.endsOperand && p.startsFactor then [(s.draft table).length] else [] := by
  rw [draft, draftToken?_eq_pendingToken? h]
  exact toList_implicit_next ..

end Draft

/-! ## The operators of a lexeme -/

section Operators

variable {table : OperatorTable} {symbol : String}

theorem Spells.exists_sign (h : Spells table .sign symbol.toList) :
    ∃ op, table.sign? symbol = some op ∧ op.isSign = true := by
  generalize hs : symbol.toList = cs at h
  cases h with
  | sign hc =>
    rw [OperatorTable.eq_singleton hs]
    obtain ⟨op, hop⟩ := Option.isSome_iff_exists.mp (OperatorTable.actsAsSign_iff.mp hc).2
    exact ⟨op, hop, OperatorTable.isSign_of_sign? hop⟩

theorem Spells.exists_postfixOp (h : Spells table .postfixOp symbol.toList) :
    ∃ op, table.postfixOp? symbol = some op ∧ op.isPostfixOp = true := by
  generalize hs : symbol.toList = cs at h
  cases h with
  | postfixOp hc =>
    rw [OperatorTable.eq_singleton hs]
    obtain ⟨op, hop⟩ := Option.isSome_iff_exists.mp (OperatorTable.actsAsPostfix_iff.mp hc).2
    exact ⟨op, hop, OperatorTable.isPostfixOp_of_postfixOp? hop⟩

theorem Spells.exists_binary (h : Spells table .binary symbol.toList) :
    ∃ op, table.binary? symbol = some op ∧ op.isBinary = true
      ∧ table.postfixOp? symbol = none := by
  generalize hs : symbol.toList = cs at h
  cases h with
  | binary hc =>
    rw [OperatorTable.eq_singleton hs]
    obtain ⟨-, hbinary, hpost⟩ := OperatorTable.actsAsBinary_iff.mp hc
    obtain ⟨op, hop⟩ := Option.isSome_iff_exists.mp hbinary
    exact ⟨op, hop, OperatorTable.isBinary_of_binary? hop, Option.isNone_iff_eq_none.mp hpost⟩

end Operators

end Scanner

/-- **Acceptance by drafts.** An expression is accepted exactly if its characters can be read and
leave a complete state; its tokens are the draft of that state. -/
theorem tokenize_eq_ok_iff_draft {table : OperatorTable} {expression : String}
    {t : Tokenization} :
    tokenize table expression = .ok t ↔
      ∃ s, Scanner.feed table expression.toList (.opening expression) = .ok () s ∧ s.Complete ∧
        t = ⟨s.draft table, s.implicit.toList⟩ := by
  rw [tokenize_eq_ok_iff]
  constructor
  · intro h
    rcases h with ⟨s, hfeed, hcomplete, rfl⟩
    refine ⟨s, hfeed, hcomplete, ?_⟩
    rw [Scanner.toList_tokens_commit_eq_draft hcomplete.ne_lonePoint]
  · intro h
    rcases h with ⟨s, hfeed, hcomplete, rfl⟩
    refine ⟨s, hfeed, hcomplete, ?_⟩
    rw [Scanner.toList_tokens_commit_eq_draft hcomplete.ne_lonePoint]

end ExprLex
