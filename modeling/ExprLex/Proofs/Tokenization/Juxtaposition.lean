import ExprLex.Proofs.Scanner.Stage
import ExprLex.Proofs.Token.Multiplied

/-!
# Inserted Multiplications Are the Juxtapositions

The scanner inserts a multiplication when a factor begins right behind an operand, before it is
known what becomes of that factor. In every state that it reaches, the draft has an inserted token
between juxtaposed tokens and nowhere else.
-/

namespace ExprLex

namespace Scanner

variable {table : OperatorTable} {c : Char} {s s' : Scanner} {p : Pending} {symbol : String}
  {token : Token}

/-! ## What the kind of a lexeme tells about its token -/

/-- Lexemes of digits and points make numbers, and no others do. -/
theorem kind_of_draftToken? (h : draftToken? table symbol p = some token) :
    token.kind = .number ↔ p.isNumber = true := by
  cases p with
  | empty => cases h
  | integer | decimal | lonePoint => cases h; exact iff_of_true rfl rfl
  | leftBracket | rightBracket => cases h; simp [Token.kind, Pending.isNumber]
  | binary | sign | postfixOp =>
    obtain ⟨op, -, rfl⟩ := Option.map_eq_some_iff.mp h
    simp [Token.kind, Pending.isNumber]

/-- A lexeme that starts a factor makes a number or a left bracket. -/
theorem factor_of_draftToken? (h : draftToken? table symbol p = some token)
    (hp : p.startsFactor = true) : token.kind = .number ∨ token = .bracket .left := by
  cases p with
  | integer | lonePoint => cases h; exact .inl rfl
  | leftBracket => cases h; exact .inr rfl
  | _ => cases hp

/-- A token starts an operand exactly if its lexeme does. -/
theorem Spells.startsOperand_draftToken (h : Spells table p symbol.toList) (hp : p ≠ .empty)
    (htoken : draftToken? table symbol p = some token) :
    token.startsOperand = p.startsOperand := by
  -- any stage will do in which the lexeme may stand
  have hnext := @Spells.next?_draftToken table p symbol ⟨!p.startsOperand, 1⟩ h hp rfl
    (fun _ => Nat.one_ne_zero)
  rw [htoken, Option.bind_some] at hnext
  rw [Stage.startsOperand_of_next? hnext, Bool.not_not]

/-- The last token of a draft is that of the lexeme in progress. -/
theorem Staged.getLast?_draft (hs : s.Staged table) :
    (s.draft table).getLast? = draftToken? table s.symbol s.pending := by
  by_cases hp : s.pending = .empty
  · rw [draft, hs.idle hp, hp]
    rfl
  · obtain ⟨token, htoken, -⟩ := hs.spells.exists_draftToken hp
    rw [draft, htoken]
    simp

/-- The last token ends an operand exactly if the lexeme in progress does. -/
theorem Staged.endsOperand_of_mem_getLast? (hs : s.Staged table) (hp : s.pending ≠ .lonePoint)
    {a : Token} (ha : a ∈ (s.draft table).getLast?) : a.endsOperand = s.pending.endsOperand := by
  rw [hs.getLast?_draft] at ha
  have hne : s.pending ≠ .empty := by
    intro hempty
    rw [hempty] at ha
    cases ha
  obtain ⟨a', ha', hended⟩ := hs.spells.exists_draftToken hne
  obtain rfl : a' = a := Option.some.inj (ha'.symm.trans ha)
  rw [hended, Pending.awaitsOperand_eq_not_endsOperand hp, Bool.not_not]

/-! ## The invariant -/

/-- The draft has an inserted multiplication between juxtaposed tokens, and nowhere else. -/
structure Spaced (table : OperatorTable) (s : Scanner) : Prop where
  staged : s.Staged table
  multiplied : Multiplied (s.draft table) s.implicit.toList

/-- At the start there are no tokens to stand side by side. -/
theorem spaced_opening (expression : String) : (opening expression).Spaced table :=
  ⟨staged_opening expression, .nil⟩

theorem Spaced.advance (hs : s.Spaced table) : s.advance.Spaced table :=
  ⟨hs.staged.advance, hs.multiplied⟩

/-- A number that becomes longer is still one token. -/
theorem Spaced.extend (hs : s.Spaced table) (h : Extends c s.pending p) :
    (s.extend (String.singleton c) p).Spaced table where
  staged := hs.staged.extend h
  multiplied := by
    -- the number in progress becomes another number
    have hmultiplied := hs.multiplied
    rw [draft, draftToken?_of_isNumber h.isNumber] at hmultiplied
    rw [draft, pending_extend, draftToken?_of_isNumber h.isNumber_right]
    exact hmultiplied.renumber _

/-- A lexeme that begins is spelled by the character that is kept for it. -/
theorem Begins.spells_symbol (h : Begins table c s p) :
    Spells table p (String.singleton c).toList := by
  rw [String.toList_singleton]
  exact h.spells

/-- A factor that begins behind an operand is juxtaposed to the last token of the draft. -/
theorem Begins.juxtaposed (h : Begins table c s p) (hs : s.Staged table) {a b : Token}
    (ha : a ∈ (s.draft table).getLast?) (hb : draftToken? table (String.singleton c) p = some b)
    (hends : s.pending.endsOperand = true) (hfactor : p.startsFactor = true) :
    a.Juxtaposed b where
  ends := (hs.endsOperand_of_mem_getLast? h.ne_lonePoint ha).trans hends
  factor := factor_of_draftToken? hb hfactor
  apart := by
    rw [hs.getLast?_draft] at ha
    rintro ⟨hnumber, hnumber'⟩
    -- a digit or a point behind a number would make that number longer
    have hpending := (kind_of_draftToken? ha).mp hnumber
    have hp := (kind_of_draftToken? hb).mp hnumber'
    have hc : Text.isNumeric c = true := h.spells.isNumeric hp c List.mem_cons_self
    rw [h.isNumber_of_isNumeric hc] at hpending
    cases hpending

/-- A lexeme before which nothing is inserted is not juxtaposed to the last token of the draft. -/
theorem Begins.not_juxtaposed (h : Begins table c s p) (hs : s.Staged table) {a b : Token}
    (ha : a ∈ (s.draft table).getLast?) (hb : draftToken? table (String.singleton c) p = some b)
    (hnot : (s.pending.endsOperand && p.startsFactor) = false) :
    ¬(a.endsOperand = true ∧ b.startsOperand = true) := by
  rintro ⟨hends, hstarts⟩
  rw [hs.endsOperand_of_mem_getLast? h.ne_lonePoint ha] at hends
  rw [h.spells_symbol.startsOperand_draftToken h.ne_empty hb] at hstarts
  rw [hends, Bool.true_and] at hnot
  -- what starts an operand and is no factor is a sign, for which an operand has to be awaited
  cases h with
  | digit | point | left => cases hnot
  | right | binary | postfixOp => cases hstarts
  | sign _ hawaits =>
    rw [Pending.awaitsOperand_of_endsOperand hends] at hawaits
    cases hawaits

/-- A lexeme that begins is set apart from the operand before it by a multiplication. -/
theorem Spaced.begun (hs : s.Spaced table) (h : Begins table c s p) :
    (s.begun table c p).Spaced table where
  staged := hs.staged.begun h
  multiplied := by
    obtain ⟨b, hb, -⟩ := h.spells_symbol.exists_draftToken h.ne_empty
    rw [draft, toList_tokens_begun h.ne_lonePoint, toList_implicit_begun h.ne_lonePoint,
      symbol_begun, pending_begun, hb, Option.toList_some]
    cases hjuxtaposed : s.pending.endsOperand && p.startsFactor with
    | false =>
      simp only [Bool.false_eq_true, if_false, List.append_nil]
      -- the token comes right behind the others, which it does not multiply
      exact .written hs.multiplied fun a ha => h.not_juxtaposed hs.staged ha hb hjuxtaposed
    | true =>
      simp only [if_true]
      obtain ⟨hends, hfactor⟩ := Bool.and_eq_true_iff.mp hjuxtaposed
      -- what ends an operand is a token already, and a multiplication goes between the two
      have hne : s.pending ≠ .empty := by
        intro hempty
        rw [hempty] at hends
        cases hends
      obtain ⟨a, ha, -⟩ := hs.staged.spells.exists_draftToken hne
      rw [← hs.staged.getLast?_draft] at ha
      exact .inserted hs.multiplied ha (h.juxtaposed hs.staged ha hb hends hfactor)

/-- **Every state that is reached is spaced.** -/
theorem spaced_of_feed {cs : List Char} (hs : s.Spaced table)
    (h : feed table cs s = .ok () s') : s'.Spaced table :=
  invariant_of_feed (fun _ s => s.Spaced table) [] Spaced.extend Spaced.begun Spaced.advance hs h

end Scanner

/-- In the tokens of an expression, multiplications are inserted exactly where they have to be. -/
theorem multiplied_of_tokenize {table : OperatorTable} {expression : String} {t : Tokenization}
    (h : tokenize table expression = .ok t) : Multiplied t.tokens t.implicit := by
  obtain ⟨s, hfeed, -, rfl⟩ := tokenize_eq_ok_iff_draft.mp h
  exact (Scanner.spaced_of_feed (Scanner.spaced_opening expression) hfeed).multiplied

/-- **Inserted multiplications are the juxtapositions.** The indices of the inserted tokens
increase. Each inserted token is a multiplication that stands behind the end of an operand and in
front of a number or a left bracket, and not between two numbers. Of the tokens that were written,
neighbours end an operand and start one exactly if a token was inserted between them, so that there
are as many inserted tokens as such neighbours. -/
theorem inserted_iff_juxtaposed {table : OperatorTable} {expression : String} {t : Tokenization}
    (h : tokenize table expression = .ok t) :
    t.implicit.Pairwise (· < ·) ∧
      (∀ i ∈ t.implicit, 0 < i ∧ i + 1 < t.tokens.length ∧
        t.tokens[i]? = some (.operator .multiplication) ∧
        ∃ a b, t.tokens[i - 1]? = some a ∧ t.tokens[i + 1]? = some b ∧ a.endsOperand = true ∧
          (b.kind = .number ∨ b = .bracket .left) ∧ ¬(a.kind = .number ∧ b.kind = .number)) ∧
      (t.placed.IsChain fun x y =>
        (x.1.endsOperand = true ∧ y.1.startsOperand = true) ↔
          ∃ i ∈ t.implicit, x.2 < i ∧ i < y.2) ∧
      t.implicit.length = (juxtapositions t.explicit).length := by
  obtain ⟨s, hfeed, -, rfl⟩ := tokenize_eq_ok_iff_draft.mp h
  -- tokens and indices grow together, and each step keeps the multiplications where they have to be
  have hmultiplied := (Scanner.spaced_of_feed (Scanner.spaced_opening expression) hfeed).multiplied
  refine ⟨hmultiplied.increasing, ?_, hmultiplied.isChain_placed, hmultiplied.length_eq⟩
  intro i hi
  obtain ⟨hpos, hproduct, a, b, ha, hb, hab⟩ := hmultiplied.juxtaposed i hi
  exact ⟨hpos, hmultiplied.succ_lt_length i hi, hproduct, a, b, ha, hb, hab.ends, hab.factor,
    hab.apart⟩

/-- In `2 (3)4!.5` three multiplications are not written. -/
theorem inserted_two_three_four_half :
    tokenize .standard "2 (3)4!.5" = .ok ⟨[.number "2", .operator .multiplication,
        .bracket .left, .number "3", .bracket .right, .operator .multiplication, .number "4",
        .operator .factorial, .operator .multiplication, .number ".5"], [1, 5, 8]⟩ ∧
      [1, 5, 8].length = (juxtapositions [.number "2", .bracket .left, .number "3",
        .bracket .right, .number "4", .operator .factorial, .number ".5"]).length := by
  have hread : tokenize .standard "2 (3)4!.5" = .ok ⟨[.number "2", .operator .multiplication,
      .bracket .left, .number "3", .bracket .right, .operator .multiplication, .number "4",
      .operator .factorial, .operator .multiplication, .number ".5"], [1, 5, 8]⟩ := by
    decide +kernel
  exact ⟨hread, (inserted_iff_juxtaposed hread).2.2.2⟩

end ExprLex
