import ExprLex.Proofs.Token.Phrase

/-!
# The Language of Valid Streams

The validator looks at the neighbours of operators and right brackets and counts the open brackets.
It does not mind factors side by side, so that writing out the multiplications between them changes
nothing for it (`validateFrom_withProducts`). With these multiplications a stream is valid exactly
if it is an expression of the grammar (`validate_language`).
-/

namespace ExprLex

namespace Token

variable {token a b : Token}

/-- An operand ends with a number, a right bracket or a factorial. -/
theorem endsOperand_iff : token.endsOperand = true ↔
    token.kind = .number ∨ token = .bracket .right ∨ token = .operator .factorial := by
  cases token with
  | number symbol => simp [kind]
  | operator op => simp [kind, Operator.isPostfixOp_iff]
  | bracket side => cases side <;> simp [kind]

/-- An operand starts with a number, a left bracket or a sign. -/
theorem startsOperand_iff : token.startsOperand = true ↔
    token.kind = .number ∨ token = .bracket .left ∨ token = .operator .plus ∨
      token = .operator .minus := by
  cases token with
  | number symbol => simp [kind]
  | operator op => simp [kind, Operator.isSign_iff]
  | bracket side => cases side <;> simp [kind]

/-! ## The checks of one token -/

/-- What is asked of a token, by its neighbours and the number of open brackets. -/
def Fits (before : Option Token) (depth : Nat) (after : Option Token) : Token → Prop
  | .number _ | .bracket .left => True
  | .bracket .right => depth ≠ 0 ∧ before ≠ some (.bracket .left)
  | .operator op => leftFits before op = true ∧ rightFits op after = true

/-- The number of open brackets behind a token. -/
def depthBehind (depth : Nat) : Token → Nat
  | .bracket .left => depth + 1
  | .bracket .right => depth - 1
  | _ => depth

variable {before before' after after' : Option Token} {depth : Nat}

/-- A token that ends an operand asks for nothing behind it. -/
theorem fits_congr_right (h : token.endsOperand = true) :
    token.Fits before depth after ↔ token.Fits before depth after' := by
  cases token with
  | number symbol => exact Iff.rfl
  | operator op =>
    have hpost : op.isPostfixOp = true := h
    simp [Fits, rightFits, hpost]
  | bracket side => cases side <;> exact Iff.rfl

/-- A token that starts an operand asks for nothing in front of it. -/
theorem fits_congr_left (h : token.startsOperand = true) :
    token.Fits before depth after ↔ token.Fits before' depth after := by
  cases token with
  | number symbol => exact Iff.rfl
  | operator op =>
    have hsign : op.isSign = true := h
    simp [Fits, leftFits, hsign]
  | bracket side =>
    cases side with
    | left => exact Iff.rfl
    | right => cases h

/-- A multiplication fits between the end of an operand and the start of one. -/
theorem fits_multiplication (ha : a.endsOperand = true) (hb : b.startsOperand = true) :
    (operator .multiplication).Fits (some a) depth (some b) := by
  constructor
  · simp [leftFits, ha]
  · simp [rightFits, hb]

end Token

section Checks

variable {before : Option Token} {depth index : Nat} {token : Token} {rest : List Token}

/-- A stream passes if its first token fits and the others pass behind it. -/
theorem validateFrom_cons_eq_ok_iff :
    validateFrom before depth index (token :: rest) = .ok () ↔
      token.Fits before depth rest.head? ∧
        validateFrom (some token) (token.depthBehind depth) (index + 1) rest = .ok () := by
  cases token with
  | number symbol => simp [validateFrom, Token.Fits, Token.depthBehind]
  | operator op =>
    cases hl : leftFits before op <;> cases hr : rightFits op rest.head? <;>
      simp [validateFrom, Token.Fits, Token.depthBehind, hl, hr]
  | bracket side =>
    cases side with
    | left => simp [validateFrom, Token.Fits, Token.depthBehind]
    | right =>
      -- a right bracket is tested for an open one first, then for what stands before it
      by_cases hd : depth = 0
      · simp [validateFrom, Token.Fits, hd]
      · by_cases hb : before = some (.bracket .left)
        · simp [validateFrom, Token.Fits, hd, hb]
        · simp [validateFrom, Token.Fits, Token.depthBehind, hd, hb]

end Checks

/-! ## Products written out -/

/-- Tokens with a multiplication between neighbours of which the first ends an operand and the
second starts one. -/
def withProducts : List Token → List Token
  | a :: b :: rest =>
    if a.endsOperand && b.startsOperand then
      a :: .operator .multiplication :: withProducts (b :: rest)
    else a :: withProducts (b :: rest)
  | tokens => tokens

theorem head?_withProducts (tokens : List Token) :
    (withProducts tokens).head? = tokens.head? := by
  cases tokens with
  | nil => rfl
  | cons a rest =>
    cases rest with
    | nil => rfl
    | cons b rest =>
      rw [withProducts]
      split <;> rfl

theorem withProducts_eq_nil_iff {tokens : List Token} : withProducts tokens = [] ↔ tokens = [] := by
  rw [← List.head?_eq_none_iff, head?_withProducts, List.head?_eq_none_iff]

/-- With all products written out, no operands are side by side. -/
theorem apart_withProducts (tokens : List Token) : Apart (withProducts tokens) := by
  fun_induction withProducts tokens with
  | case1 a b rest h ih =>
    -- a multiplication neither ends an operand nor starts one
    have hends : (Token.operator .multiplication).endsOperand = false := rfl
    have hstarts : (Token.operator .multiplication).startsOperand = false := rfl
    refine List.isChain_cons.mpr ⟨by simp [hstarts], ?_⟩
    exact List.isChain_cons.mpr ⟨by simp [hends], ih⟩
  | case2 a b rest h ih =>
    refine List.isChain_cons.mpr ⟨?_, ih⟩
    intro next hnext
    rw [head?_withProducts] at hnext
    obtain rfl : b = next := Option.some.inj hnext
    simpa using h
  | case3 tokens hshort =>
    cases tokens with
    | nil => exact .nil
    | cons a rest =>
      cases rest with
      | nil => exact List.isChain_singleton a
      | cons b rest => exact absurd rfl (hshort a b rest)

/-- The validator does not mind whether products are written out. -/
theorem validateFrom_withProducts {before : Option Token} {depth index index' : Nat}
    (tokens : List Token) :
    validateFrom before depth index (withProducts tokens) = .ok () ↔
      validateFrom before depth index' tokens = .ok () := by
  fun_induction withProducts tokens generalizing before depth index index' with
  | case1 a b rest h ih =>
    obtain ⟨ha, hb⟩ := Bool.and_eq_true_iff.mp h
    have hproduct : (Token.operator .multiplication).Fits (some a) (a.depthBehind depth) (some b) :=
      Token.fits_multiplication ha hb
    -- the multiplication stands where both its neighbours allow anything
    calc validateFrom before depth index
          (a :: .operator .multiplication :: withProducts (b :: rest)) = .ok ()
      _ ↔ a.Fits before depth (some (.operator .multiplication)) ∧
            validateFrom (some (.operator .multiplication)) (a.depthBehind depth) (index + 1 + 1)
              (withProducts (b :: rest)) = .ok () := by
          rw [validateFrom_cons_eq_ok_iff, validateFrom_cons_eq_ok_iff, head?_withProducts]
          simp only [List.head?_cons, hproduct, true_and]
          rfl
      _ ↔ a.Fits before depth (some b) ∧
            validateFrom (some (.operator .multiplication)) (a.depthBehind depth) (index' + 1)
              (b :: rest) = .ok () :=
          and_congr (Token.fits_congr_right ha) ih
      _ ↔ a.Fits before depth (b :: rest).head? ∧
            validateFrom (some a) (a.depthBehind depth) (index' + 1) (b :: rest) = .ok () := by
          rw [validateFrom_cons_eq_ok_iff, validateFrom_cons_eq_ok_iff, Token.fits_congr_left hb]
          rfl
      _ ↔ validateFrom before depth index' (a :: b :: rest) = .ok () :=
          validateFrom_cons_eq_ok_iff.symm
  | case2 a b rest h ih =>
    rw [validateFrom_cons_eq_ok_iff, head?_withProducts]
    exact (and_congr_right fun _ => ih).trans validateFrom_cons_eq_ok_iff.symm
  | case3 tokens hshort =>
    cases tokens with
    | nil => exact Iff.rfl
    | cons a rest =>
      cases rest with
      | nil => rw [validateFrom_cons_eq_ok_iff, validateFrom_cons_eq_ok_iff]; rfl
      | cons b rest => exact absurd rfl (hshort a b rest)

/-- Writing out products makes no difference to the check. -/
theorem validate_withProducts (tokens : List Token) :
    validate (withProducts tokens) = .ok () ↔ validate tokens = .ok () := by
  cases tokens with
  | nil => exact Iff.rfl
  | cons token rest =>
    have hne : (withProducts (token :: rest)).isEmpty = false := by
      simp [withProducts_eq_nil_iff]
    rw [validate, validate, hne]
    exact validateFrom_withProducts (token :: rest)

/-- **The language of valid streams.** A stream is valid exactly if it is not empty and, with a
multiplication written out between the end of an operand and the start of the next one, is an
expression of the grammar. Any other stream has a fault. -/
theorem validate_language (tokens : List Token) :
    (validate tokens = .ok () ↔ tokens ≠ [] ∧ IsPhrase .expression (withProducts tokens)) ∧
      ((∃ fault, validate tokens = .error fault) ↔
        ¬(tokens ≠ [] ∧ IsPhrase .expression (withProducts tokens))) := by
  have hvalid : validate tokens = .ok () ↔
      tokens ≠ [] ∧ IsPhrase .expression (withProducts tokens) := by
    by_cases hnil : tokens = []
    · subst hnil
      simp [validate]
    · have hne : withProducts tokens ≠ [] := fun h => hnil (withProducts_eq_nil_iff.mp h)
      calc validate tokens = .ok ()
        _ ↔ validate (withProducts tokens) = .ok () := (validate_withProducts tokens).symm
        _ ↔ validate (withProducts tokens) = .ok () ∧ Apart (withProducts tokens) :=
            (and_iff_left (apart_withProducts tokens)).symm
        _ ↔ Stage.start.after? (withProducts tokens) = some ⟨true, 0⟩ :=
            validate_and_apart_iff hne
        _ ↔ IsPhrase .expression (withProducts tokens) := Stage.after?_eq_iff_isPhrase
        _ ↔ tokens ≠ [] ∧ IsPhrase .expression (withProducts tokens) := (and_iff_right hnil).symm
  refine ⟨hvalid, ?_⟩
  rw [← hvalid]
  -- an outcome is one or the other
  cases validate tokens with
  | ok => simp
  | error fault => simp

/-- Signs may follow an operand, since `2 3 -(4!)` is `2 * 3 * -(4!)`. -/
example : withProducts [.number "2", .number "3", .operator .minus, .bracket .left, .number "4",
      .operator .factorial, .bracket .right] =
    [.number "2", .operator .multiplication, .number "3", .operator .multiplication,
      .operator .minus, .bracket .left, .number "4", .operator .factorial, .bracket .right] := by
  rfl

end ExprLex
