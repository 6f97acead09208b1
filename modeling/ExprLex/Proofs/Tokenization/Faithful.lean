import ExprLex.Proofs.Operator.Standard
import ExprLex.Proofs.Scanner.Stage
import ExprLex.Proofs.Text.Lexeme
import ExprLex.Proofs.Tokenization.Written

/-!
# Tokenizations Are Faithful

The tokens that were written are the lexemes of an expression, one for one and in order: nothing
is lost, invented or misread. Which operator a character denotes depends only on the token in
front of it. With the standard operators, the tokens that were written can be written again, and
the blanks are all that is missing.
-/

namespace ExprLex

/-! ## What lexemes denote -/

namespace OperatorTable

/-- The token that a lexeme denotes behind the token `before`. -/
def tokenOf? (table : OperatorTable) (before : Option Token) (text : List Char) : Option Token :=
  if text.all Text.isNumeric then some (.number (String.ofList text))
  else if text = ['('] then some (.bracket .left)
  else if text = [')'] then some (.bracket .right)
  else
    let symbol := String.ofList text
    -- behind an operand no sign can stand, and in front of one nothing else
    if before.any Token.endsOperand then
      ((table.postfixOp? symbol).or (table.binary? symbol)).map .operator
    else (table.sign? symbol).map .operator

/-- The tokens that lexemes denote behind the token `before`. -/
def tokensOf? (table : OperatorTable) (before : Option Token) :
    List (List Char) → Option (List Token)
  | [] => some []
  | text :: rest =>
    (table.tokenOf? before text).bind fun token =>
      (table.tokensOf? (some token) rest).map fun tokens => token :: tokens

variable {table : OperatorTable} {before : Option Token}

theorem tokenOf?_of_isNumeric {text : List Char} (h : ∀ c ∈ text, Text.isNumeric c = true) :
    table.tokenOf? before text = some (.number (String.ofList text)) := by
  have hall : text.all Text.isNumeric = true := List.all_eq_true.mpr h
  rw [tokenOf?, if_pos hall]

/-- An operator is read by what ends before it. -/
theorem tokenOf?_of_not_isReserved {c : Char} (h : Text.isReserved c = false) :
    table.tokenOf? before [c] =
      if before.any Token.endsOperand then
        ((table.postfixOp? (String.singleton c)).or (table.binary? (String.singleton c))).map
          .operator
      else (table.sign? (String.singleton c)).map .operator := by
  obtain ⟨-, -, hleft, hright⟩ := Text.isReserved_eq_false_iff.mp h
  have hnumeric := Text.isNumeric_of_not_isReserved h
  rw [String.singleton_eq_ofList]
  simp only [tokenOf?, List.all_cons, List.all_nil, hnumeric, List.cons.injEq, hleft, hright,
    Bool.and_true, Bool.false_eq_true, and_true, if_false]

/-- One more lexeme denotes one more token, which depends on the last one in front of it. -/
theorem tokensOf?_append_singleton (texts : List (List Char)) (text : List Char) :
    table.tokensOf? before (texts ++ [text]) =
      (table.tokensOf? before texts).bind fun tokens =>
        (table.tokenOf? (tokens.getLast?.or before) text).map fun token => tokens ++ [token] := by
  -- induction on the lexemes, for any token in front of them
  induction texts generalizing before with
  | nil =>
    cases htoken : table.tokenOf? before text with
    | none => simp [tokensOf?, htoken]
    | some token => simp [tokensOf?, htoken]
  | cons first rest ih =>
    simp only [List.cons_append, tokensOf?]
    cases table.tokenOf? before first with
    | none => rfl
    | some token =>
      rw [Option.bind_some, Option.bind_some, ih]
      cases htokens : table.tokensOf? (some token) rest with
      | none => rfl
      | some tokens =>
        have hlast : (token :: tokens).getLast?.or before = tokens.getLast?.or (some token) := by
          cases tokens <;> simp [List.getLast?_cons]
        simp [hlast, Function.comp_def]

end OperatorTable

/-! ## What the scanner keeps in step -/

namespace Scanner

/-- The finished tokens that were written. -/
def written (s : Scanner) : List Token :=
  Tokenization.explicit ⟨s.tokens.toList, s.implicit.toList⟩

/-- The lexeme in progress, if there is one. -/
def current (s : Scanner) : List (List Char) :=
  if s.pending = .empty then [] else [s.symbol.toList]

/-- The finished lexemes denote the finished tokens that were written, and the lexeme in progress
denotes the token in progress. -/
structure Traced (table : OperatorTable) (read : List Char) (s : Scanner) : Prop where
  staged : s.Staged table
  idle : s.pending = .empty → read = []
  listed : ∀ i ∈ s.implicit.toList, i < s.tokens.toList.length
  finished : ∃ texts, Text.lexemes read = texts ++ s.current ∧
    table.tokensOf? none texts = some s.written
  pending : s.pending ≠ .empty →
    table.tokenOf? s.written.getLast? s.symbol.toList = draftToken? table s.symbol s.pending

variable {table : OperatorTable} {read : List Char} {s s' : Scanner} {c : Char} {p : Pending}

/-- At the start, nothing has been written. -/
theorem traced_opening (expression : String) : (opening expression).Traced table [] where
  staged := staged_opening expression
  idle _ := rfl
  listed := by simp [opening, note, reset, fresh]
  finished := ⟨[], rfl, rfl⟩
  pending h := absurd rfl h

theorem Traced.advance (hs : s.Traced table read) : s.advance.Traced table read :=
  ⟨hs.staged.advance, hs.idle, hs.listed, hs.finished, hs.pending⟩

/-- What was written are the tokens before the lexeme in progress and its own. -/
theorem Traced.explicit_draft (hs : s.Traced table read) :
    Tokenization.explicit ⟨s.draft table, s.implicit.toList⟩ =
      s.written ++ (draftToken? table s.symbol s.pending).toList := by
  unfold draft
  cases draftToken? table s.symbol s.pending with
  | none => simp [written]
  | some token => exact Tokenization.explicit_append_token hs.listed token

/-- All lexemes together denote the tokens of the draft that were written. -/
theorem Traced.tokensOf? (hs : s.Traced table read) :
    table.tokensOf? none (Text.lexemes read) =
      some (Tokenization.explicit ⟨s.draft table, s.implicit.toList⟩) := by
  obtain ⟨texts, htexts, htokens⟩ := hs.finished
  rw [hs.explicit_draft, htexts, current]
  by_cases hp : s.pending = .empty
  · rw [if_pos hp, hp, List.append_nil, htokens]
    simp [draftToken?, pendingToken?]
  · obtain ⟨token, htoken, -⟩ := hs.staged.spells.exists_draftToken hp
    rw [if_neg hp, OperatorTable.tokensOf?_append_singleton, htokens, Option.bind_some,
      Option.or_none, hs.pending hp, htoken]
    rfl

/-- What was written ends an operand exactly if none is awaited. -/
theorem Traced.any_endsOperand (hs : s.Traced table read) :
    (Tokenization.explicit ⟨s.draft table, s.implicit.toList⟩).getLast?.any Token.endsOperand =
      !s.pending.awaitsOperand := by
  by_cases hp : s.pending = .empty
  · have htokens := hs.tokensOf?
    rw [hs.idle hp] at htokens
    rw [← Option.some.inj htokens, hp]
    rfl
  · obtain ⟨token, htoken, hends⟩ := hs.staged.spells.exists_draftToken hp
    rw [hs.explicit_draft, htoken]
    simpa using hends

/-- The last character of a text belongs to the lexeme in progress. -/
theorem Traced.mem_getLast? (hs : s.Traced table read) {d : Char} (hd : d ∈ read.getLast?) :
    d ∈ s.symbol.toList := by
  obtain ⟨texts, htexts, -⟩ := hs.finished
  have hflatten := Text.flatten_lexemes read
  rw [htexts, current] at hflatten
  by_cases hp : s.pending = .empty
  · rw [hs.idle hp] at hd
    cases hd
  · have hne : s.symbol.toList ≠ [] := fun hnil => hp (hs.staged.spells.eq_nil_iff.mp hnil)
    rw [if_neg hp, List.flatten_append, List.flatten_singleton] at hflatten
    rw [← hflatten, List.getLast?_append_of_ne_nil _ hne] at hd
    exact List.mem_of_mem_getLast? hd

/-- A lexeme denotes the same token, whether it is looked up behind the token in front of it or
by the kind with which it began. -/
theorem Begins.tokenOf? (h : Begins table c s p) {before : Option Token}
    (hbefore : before.any Token.endsOperand = !s.pending.awaitsOperand) :
    table.tokenOf? before [c] = draftToken? table (String.singleton c) p := by
  have hnumber (hc : Text.isNumeric c = true) :
      table.tokenOf? before [c] = some (.number (String.singleton c)) := by
    rw [String.singleton_eq_ofList]
    exact OperatorTable.tokenOf?_of_isNumeric (by simpa using hc)
  cases h with
  | digit hc => exact hnumber (Text.isNumeric_of_isDigit hc)
  | point hc => exact hnumber (by rw [hc]; rfl)
  | left hc => subst hc; rfl
  | right hc => subst hc; rfl
  | sign hc hp =>
    -- an operand is awaited, so that the sign is looked up
    rw [OperatorTable.tokenOf?_of_not_isReserved (OperatorTable.actsAsSign_iff.mp hc).1, hbefore,
      hp]
    rfl
  | binary hc hp =>
    -- an operand has ended, and no operator stands behind it
    obtain ⟨hr, -, hpost⟩ := OperatorTable.actsAsBinary_iff.mp hc
    rw [OperatorTable.tokenOf?_of_not_isReserved hr, hbefore,
      Pending.awaitsOperand_of_endsOperand hp, Option.isNone_iff_eq_none.mp hpost]
    rfl
  | postfixOp hc hp =>
    -- an operand has ended, and the operator behind it outweighs one between two
    obtain ⟨hr, hpost⟩ := OperatorTable.actsAsPostfix_iff.mp hc
    obtain ⟨op, hop⟩ := Option.isSome_iff_exists.mp hpost
    show table.tokenOf? before [c] = (table.postfixOp? (String.singleton c)).map .operator
    rw [OperatorTable.tokenOf?_of_not_isReserved hr, hbefore,
      Pending.awaitsOperand_of_endsOperand hp, hop]
    rfl

/-- When a lexeme begins, the one before it is written out and no multiplication is. -/
theorem Begins.written (h : Begins table c s p) :
    (s.begun table c p).written =
      Tokenization.explicit ⟨s.draft table, s.implicit.toList⟩ := by
  rw [Scanner.written, toList_tokens_begun h.ne_lonePoint, toList_implicit_begun h.ne_lonePoint]
  cases s.pending.endsOperand && p.startsFactor with
  | false => simp
  | true => exact Tokenization.explicit_append_implicit _

/-- A number that becomes longer is still the last lexeme of the text. -/
theorem Traced.extend (hs : s.Traced table read) (h : Extends c s.pending p) :
    (s.extend (String.singleton c) p).Traced table (read ++ [c]) where
  staged := hs.staged.extend h
  idle hp := absurd hp h.ne_empty
  listed := hs.listed
  finished := by
    obtain ⟨texts, htexts, htokens⟩ := hs.finished
    have hp : s.pending ≠ .empty := by
      intro hp
      have hnumber := h.isNumber
      rw [hp] at hnumber
      cases hnumber
    rw [current, if_neg hp] at htexts
    refine ⟨texts, ?_, htokens⟩
    -- the finished lexemes stay, and the one in progress takes the character up
    rw [current, pending_extend, if_neg h.ne_empty, toList_symbol_extend]
    exact Text.lexemes_append_extended htexts (hs.staged.spells.isNumeric h.isNumber) h.isNumeric
  pending := by
    intro _
    have hspells := (hs.staged.extend h).spells
    have htoken := @OperatorTable.tokenOf?_of_isNumeric table s.written.getLast? _
      (hspells.isNumeric h.isNumber_right)
    rw [String.ofList_toList] at htoken
    rw [pending_extend, draftToken?_of_isNumber h.isNumber_right]
    exact htoken

/-- A lexeme that begins is one more lexeme of the text, and denotes the token that it is committed
as. -/
theorem Traced.begun (hs : s.Traced table read) (h : Begins table c s p) :
    (s.begun table c p).Traced table (read ++ [c]) where
  staged := hs.staged.begun h
  idle := by
    intro hp
    rw [pending_begun] at hp
    exact absurd hp h.ne_empty
  listed := by
    rw [toList_implicit_begun h.ne_lonePoint, toList_tokens_begun h.ne_lonePoint]
    have hdraft : s.tokens.toList.length ≤ (s.draft table).length := by
      simp [draft]
    intro i hi
    rcases List.mem_append.mp hi with hi | hi
    · have := hs.listed i hi
      rw [List.length_append]
      omega
    · -- the index of the multiplication is the length of the draft in front of it
      cases hj : s.pending.endsOperand && p.startsFactor with
      | false => simp [hj] at hi
      | true => simp_all
  finished := by
    refine ⟨Text.lexemes read, ?_, ?_⟩
    · -- the lexeme in progress is finished, since the character is not part of it
      rw [current, pending_begun, if_neg h.ne_empty, symbol_begun, String.toList_singleton]
      apply Text.lexemes_append_begun
      intro hc d hd
      have hnumber := h.isNumber_of_isNumeric hc
      exact hs.staged.spells.not_isNumeric hnumber d (hs.mem_getLast? hd)
    · rw [h.written]
      exact hs.tokensOf?
  pending := by
    intro _
    rw [h.written, symbol_begun, pending_begun, String.toList_singleton]
    exact h.tokenOf? hs.any_endsOperand

/-- **Every state that is reached is traced.** -/
theorem traced_of_feed {cs : List Char} (hs : s.Traced table [])
    (h : feed table cs s = .ok () s') : s'.Traced table (table.visible cs) := by
  have htraced := invariant_of_feed (fun read s => s.Traced table read) [] Traced.extend
    Traced.begun Traced.advance hs h
  simpa using htraced

end Scanner

/-! ## Writing the tokens again -/

section Standard

variable {before : Option Token}

/-- With the standard operators, a token is written as the lexeme that denotes it. -/
theorem symbol_of_tokenOf?_standard {text : List Char} {token : Token}
    (h : OperatorTable.standard.tokenOf? before text = some token) :
    token.symbol.toList = text := by
  unfold OperatorTable.tokenOf? at h
  split at h
  · cases h
    exact String.toList_ofList
  split at h
  · rename_i htext
    cases h
    rw [htext]
    rfl
  split at h
  · rename_i htext
    cases h
    rw [htext]
    rfl
  · -- each of the three look-ups finds an operator that is written with the lexeme
    have hsymbol {op : Operator} (hop : String.singleton op.symbol = String.ofList text) :
        (Token.operator op).symbol.toList = text := by
      rw [Token.symbol, hop, String.toList_ofList]
    split at h
    · obtain ⟨op, hop, rfl⟩ := Option.map_eq_some_iff.mp h
      rcases Option.or_eq_some_iff.mp hop with hop | ⟨-, hop⟩
      · exact hsymbol (OperatorTable.symbol_of_lookup_standard hop)
      · exact hsymbol (OperatorTable.symbol_of_lookup_standard hop)
    · obtain ⟨op, hop, rfl⟩ := Option.map_eq_some_iff.mp h
      exact hsymbol (OperatorTable.symbol_of_lookup_standard hop)

/-- With the standard operators, tokens are written as the texts that they were read from. -/
theorem symbols_of_tokensOf?_standard {texts : List (List Char)} {tokens : List Token}
    (h : OperatorTable.standard.tokensOf? before texts = some tokens) :
    tokens.map (fun token => token.symbol.toList) = texts := by
  induction texts generalizing before tokens with
  | nil =>
    cases h
    rfl
  | cons text rest ih =>
    obtain ⟨token, htoken, hrest⟩ := Option.bind_eq_some_iff.mp h
    obtain ⟨others, hothers, rfl⟩ := Option.map_eq_some_iff.mp hrest
    rw [List.map_cons, symbol_of_tokenOf?_standard htoken, ih hothers]

/-- Without separators, rendered tokens are their symbols side by side. -/
theorem toList_render_empty (tokens : List Token) :
    (render "" tokens).toList = (tokens.map fun token => token.symbol.toList).flatten := by
  induction tokens with
  | nil => rfl
  | cons token rest ih =>
    cases rest with
    | nil => simp [render]
    | cons next others => simpa [render] using ih

end Standard

/-- **Faithful tokenizations.** With any table, the tokens that were written are denoted by the
lexemes of the visible text, one for one and in order. With the standard table, writing them
gives back the expression without its blanks. -/
theorem faithful_of_tokenize :
    (∀ {table : OperatorTable} {expression : String} {t : Tokenization},
      tokenize table expression = .ok t →
        table.tokensOf? none (Text.lexemes (table.visible expression.toList)) =
          some t.explicit) ∧
      ∀ {expression : String} {t : Tokenization},
        tokenize .standard expression = .ok t →
          render "" t.explicit =
            String.ofList (expression.toList.filter fun c => !Text.isBlank c) := by
  have hfaithful {table : OperatorTable} {expression : String} {t : Tokenization}
      (h : tokenize table expression = .ok t) :
      table.tokensOf? none (Text.lexemes (table.visible expression.toList)) =
        some t.explicit := by
    obtain ⟨s, hfeed, -, rfl⟩ := tokenize_eq_ok_iff_draft.mp h
    have hs := Scanner.traced_of_feed (Scanner.traced_opening expression) hfeed
    exact hs.tokensOf?
  refine ⟨hfaithful, ?_⟩
  intro expression t h
  -- each token is written as its lexeme, and the lexemes make up the visible text
  have hsymbols := symbols_of_tokensOf?_standard (hfaithful h)
  rw [OperatorTable.visible_standard] at hsymbols
  rw [← String.ofList_toList (s := render "" t.explicit), toList_render_empty, hsymbols,
    Text.flatten_lexemes]

/-- The multiplication in ` 2 (3)!` was not written. -/
theorem faithful_two_three_factorial :
    OperatorTable.standard.tokensOf? none
        (Text.lexemes (OperatorTable.standard.visible " 2 (3)!".toList)) =
      some [.number "2", .bracket .left, .number "3", .bracket .right, .operator .factorial] ∧
      render "" [.number "2", .bracket .left, .number "3", .bracket .right,
        .operator .factorial] = "2(3)!" := by
  have hread : tokenize .standard " 2 (3)!" = .ok ⟨[.number "2", .operator .multiplication,
      .bracket .left, .number "3", .bracket .right, .operator .factorial], [1]⟩ := by
    decide +kernel
  exact ⟨faithful_of_tokenize.1 hread, faithful_of_tokenize.2 hread⟩

end ExprLex
