import ExprLex.Numeral
import ExprLex.Proofs.Tokenization.Stable
import Mathlib.Data.List.TakeWhile

/-!
# The Value of a Number

The text of a number that is read is a decimal without a sign and without an exponent, in digits of
any scripts, and no such text is one of the words for an infinity or for no number. So it always has
a value.
-/

namespace ExprLex

namespace Text

variable {c : Char} {cs : List Char}

/-! ## Plain decimals -/

/-- A text is a decimal with the given digits before and behind the point, which need not be written
if there are no digits behind it. -/
structure IsPlain (cs whole fraction : List Char) : Prop where
  /-- There are only digits around the point. -/
  digits : ∀ c ∈ whole ++ fraction, isDigit c = true
  /-- There is at least one of them. -/
  nonempty : whole ++ fraction ≠ []
  /-- They are written in this order. -/
  written : cs = whole ++ '.' :: fraction ∨ cs = whole ∧ fraction = []

/-- Every number of the grammar is digits with a point between them or none. -/
theorem IsNumeral.exists_isPlain (h : IsNumeral cs) :
    ∃ whole fraction, IsPlain cs whole fraction := by
  rcases isNumeral_iff.mp h with ⟨hne, hdigits⟩ | ⟨whole, fraction, hcs, hwhole, hfraction, hne⟩
  · exact ⟨cs, [], by simpa using hdigits, by simpa using hne, .inr ⟨rfl, rfl⟩⟩
  · refine ⟨whole, fraction, ?_, ?_, .inl hcs⟩
    · intro c hc
      exact (List.mem_append.mp hc).elim (hwhole c) (hfraction c)
    · simpa [List.append_eq_nil_iff, imp_iff_not_or] using hne

theorem IsPlain.isNumeric {whole fraction : List Char} (h : IsPlain cs whole fraction) :
    ∀ c ∈ cs, isNumeric c = true := by
  intro c hc
  have hdigits : c ∈ whole ++ fraction ∨ c = '.' := by
    rcases h.written with rfl | ⟨rfl, rfl⟩
    · simp only [List.mem_append, List.mem_cons] at hc ⊢
      tauto
    · exact .inl (List.mem_append_left [] hc)
  rcases hdigits with hdigit | rfl
  · exact isNumeric_of_isDigit (h.digits c hdigit)
  · rfl

/-! ## Letters -/

/-- The digits of ASCII are the first ten, and all others come much later. -/
theorem toNat_of_isDigit (h : isDigit c = true) :
    0x30 ≤ c.toNat ∧ c.toNat ≤ 0x39 ∨ 0x660 ≤ c.toNat := by
  obtain ⟨value, hvalue⟩ := Option.isSome_iff_exists.mp h
  obtain ⟨first, hfirst, hle, hlt⟩ := exists_zero_of_digitValueIn hvalue
  have hzeros : ∀ first ∈ digitZeros, first = 0x30 ∨ 0x660 ≤ first := by decide
  have hzero := hzeros first hfirst
  omega

theorem toLower_of_isNumeric (h : isNumeric c = true) : c.toLower = c := by
  refine dif_neg fun hupper => ?_
  have hlow : 0x41 ≤ c.toNat := hupper.1
  have hhigh : c.toNat ≤ 0x5A := hupper.2
  rcases Bool.or_eq_true_iff.mp h with hdigit | hpoint
  · have hrange := toNat_of_isDigit hdigit
    omega
  · obtain rfl : c = '.' := eq_of_beq hpoint
    exact absurd hlow (by decide)

/-- A text of digits and points is no word. -/
theorem ofList_map_toLower_ne {word : String} (h : ∀ c ∈ cs, isNumeric c = true)
    (hword : ∃ c ∈ word.toList, isNumeric c = false) :
    String.ofList (cs.map Char.toLower) ≠ word := by
  have hsame : cs.map Char.toLower = cs :=
    (List.map_congr_left fun c hc => toLower_of_isNumeric (h c hc)).trans (List.map_id' cs)
  rintro rfl
  obtain ⟨c, hc, hletter⟩ := hword
  rw [String.toList_ofList, hsame] at hc
  rw [h c hc] at hletter
  cases hletter

end Text

namespace Numeral

variable {cs rest whole fraction : List Char}

/-! ## Reading a plain decimal -/

/-- The decimal with the given digits before and behind the point. -/
def plain (whole fraction : List Char) : Numeral :=
  .decimal false (ofDigits ((whole ++ fraction).filterMap Text.digitValue?)) (-fraction.length)

section Digits

variable {digits : List Char} (h : ∀ c ∈ digits, Text.isDigit c = true)
include h

theorem leadingDigits_of_digits : leadingDigits digits = digits.filterMap Text.digitValue? := by
  rw [leadingDigits, List.takeWhile_eq_self_iff.mpr h]

theorem afterDigits_of_digits : afterDigits digits = [] :=
  List.dropWhile_eq_nil_iff.mpr h

theorem leadingDigits_append_point :
    leadingDigits (digits ++ '.' :: rest) = digits.filterMap Text.digitValue? := by
  rw [leadingDigits, List.takeWhile_append_of_pos h, List.takeWhile_cons_of_neg (by decide),
    List.append_nil]

theorem afterDigits_append_point : afterDigits (digits ++ '.' :: rest) = '.' :: rest := by
  rw [afterDigits, List.dropWhile_append_of_pos h, List.dropWhile_cons_of_neg (by decide)]

/-- Each digit has a value. -/
theorem length_filterMap_digitValue? : (digits.filterMap Text.digitValue?).length = digits.length :=
  List.filterMap_length_eq_length.mpr h

end Digits

/-- Digits with a point between them are read as a number in base ten. -/
theorem decimal?_of_isPlain (h : Text.IsPlain cs whole fraction) :
    decimal? false cs = some (plain whole fraction) := by
  have hwhole : ∀ c ∈ whole, Text.isDigit c = true := fun c hc =>
    h.digits c (List.mem_append_left fraction hc)
  have hfraction : ∀ c ∈ fraction, Text.isDigit c = true := fun c hc =>
    h.digits c (List.mem_append_right whole hc)
  have hvalues : ((whole.filterMap Text.digitValue?).isEmpty &&
      (fraction.filterMap Text.digitValue?).isEmpty) = false := by
    have hsome : ((whole ++ fraction).filterMap Text.digitValue?).length ≠ 0 := by
      rw [length_filterMap_digitValue? h.digits]
      exact List.length_eq_zero_iff.not.mpr h.nonempty
    rw [List.filterMap_append] at hsome
    simpa [List.isEmpty_iff] using hsome
  -- the number of places behind the point is that of the digits there
  have hsize := length_filterMap_digitValue? hfraction
  rcases h.written with rfl | ⟨rfl, rfl⟩
  · simp only [decimal?, leadingDigits_append_point hwhole, afterDigits_append_point hwhole,
      leadingDigits_of_digits hfraction, afterDigits_of_digits hfraction, hvalues, hsize]
    simp [exponent?, plain]
  · rw [List.filterMap_nil] at hvalues
    simp only [decimal?, leadingDigits_of_digits hwhole, afterDigits_of_digits hwhole, hvalues]
    simp [exponent?, plain]

theorem splitSign_of_isNumeric (h : ∀ c ∈ cs, Text.isNumeric c = true) :
    splitSign cs = (false, cs) := by
  unfold splitSign
  split
  · exact absurd (h '-' List.mem_cons_self) (by decide)
  · exact absurd (h '+' List.mem_cons_self) (by decide)
  · rfl

/-- Digits with a point between them have the value that they denote. -/
theorem read?_of_isPlain {text : String} (h : Text.IsPlain text.toList whole fraction) :
    read? text = some (plain whole fraction) := by
  have hnumeric := h.isNumeric
  have hword (word : String) (hletter : ∃ c ∈ word.toList, Text.isNumeric c = false) :=
    Text.ofList_map_toLower_ne hnumeric hletter
  have hinf := hword "inf" ⟨'i', by decide, by decide⟩
  have hinfinity := hword "infinity" ⟨'i', by decide, by decide⟩
  have hnan := hword "nan" ⟨'n', by decide, by decide⟩
  rw [read?, splitSign_of_isNumeric hnumeric]
  simp only [hinf, hinfinity, hnan, or_self, if_false, decimal?_of_isPlain h]

end Numeral

/-- **Every number that is read has a value.** Its text is of decimal digits of any scripts and at
most one point, with at least one digit, and is read as the decimal with these digits. -/
theorem value_of_tokenize {table : OperatorTable} {expression symbol : String} {t : Tokenization}
    (h : tokenize table expression = .ok t) (hmem : .number symbol ∈ t.tokens) :
    Text.IsNumeral symbol.toList ∧ ∃ whole fraction,
      Text.IsPlain symbol.toList whole fraction ∧
        Numeral.read? symbol = some (.plain whole fraction) ∧
        numberValue symbol = .ok (Numeral.plain whole fraction).value := by
  have hnumeral := numerals_of_tokenize h symbol hmem
  obtain ⟨whole, fraction, hplain⟩ := hnumeral.exists_isPlain
  have hread := Numeral.read?_of_isPlain hplain
  refine ⟨hnumeral, whole, fraction, hplain, hread, ?_⟩
  rw [numberValue, hread]

/-- A number may have digits of two scripts, with a blank among them, and stand in a group that is
multiplied without a sign. -/
theorem value_three_half :
    ∃ t, tokenize .standard "2(\u0663 .5)" = .ok t ∧ .number "\u0663.5" ∈ t.tokens ∧
      Numeral.read? "\u0663.5" = some (.decimal false 35 (-1)) ∧
      numberValue "\u0663.5" = .ok (Numeral.decimal false 35 (-1)).value := by
  have htokens : tokenize .standard "2(\u0663 .5)" = .ok ⟨[.number "2", .operator .multiplication,
      .bracket .left, .number "\u0663.5", .bracket .right], [1]⟩ := by
    rfl
  have hmem : Token.number "\u0663.5" ∈ [.number "2", .operator .multiplication, .bracket .left,
      .number "\u0663.5", .bracket .right] := by
    decide
  have hread : Numeral.read? "\u0663.5" = some (.decimal false 35 (-1)) := by
    decide +kernel
  obtain ⟨-, whole, fraction, -, hplain, hvalue⟩ := value_of_tokenize htokens hmem
  rw [← Option.some.inj (hread.symm.trans hplain)] at hvalue
  exact ⟨_, htokens, hmem, hread, hvalue⟩

end ExprLex
