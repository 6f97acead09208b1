import ExprLex.Proofs.Scanner.Lexeme

/-!
# What Can Be Read

A scanner makes progress where the next character may stand. Single characters that begin a
lexeme are read at once; the text of a number is read as a whole, since its first character
begins a lexeme and each of the others makes it longer.
-/

namespace ExprLex.Scanner

variable {table : OperatorTable} {s s' : Scanner} {c : Char} {cs : List Char}
  {p q : Pending}

theorem feed_cons_of_move (h : Move table c s s') :
    feed table (c :: cs) s = feed table cs s'.advance := by
  simp only [feed, readChar_eq_ok_iff.mpr h]

theorem feed_cons_of_begins (h : Begins table c s p) :
    feed table (c :: cs) s = feed table cs (s.begun table c p).advance :=
  feed_cons_of_move (.begun h)

/-- What can be read behind a left bracket, and ends with an operand there, can be read between
brackets. -/
theorem feed_bracketed {last : Scanner} (hs : s.pending ≠ .lonePoint)
    (hdepth : 0 ≤ s.brackets.depth)
    (hfeed : feed table cs (s.begun table '(' .leftBracket).advance = .ok () last)
    (hended : last.pending.endsOperand = true)
    (hlast : last.brackets.depth = s.brackets.depth + 1) :
    feed table ('(' :: cs ++ [')']) s = .ok () (last.begun table ')' .rightBracket).advance := by
  have hleft : Begins table '(' s .leftBracket := .left rfl hs
  have hopen : last.brackets.depth ≠ 0 := by omega
  have hright : Begins table ')' last .rightBracket := .right rfl hopen (.inl hended)
  rw [List.cons_append, feed_cons_of_begins hleft]
  exact feed_append_eq_ok_iff.mpr ⟨last, hfeed, feed_cons_of_begins hright⟩

/-! ## Growing numbers -/

/-- A text makes a lexeme of one kind a longer one of another kind. -/
inductive Grows : Pending → List Char → Pending → Prop where
  /-- Nothing is added. -/
  | nil {p : Pending} : Grows p [] p
  /-- A character makes the lexeme longer, and the others do so behind it. -/
  | cons {c : Char} {cs : List Char} {p q r : Pending} :
      Extends c p q → Grows q cs r → Grows p (c :: cs) r

/-- The state after the lexeme in progress has become longer. -/
def grown (cs : List Char) (p : Pending) (s : Scanner) : Scanner :=
  { s with
    symbol := s.symbol ++ String.ofList cs
    pending := p
    position := s.position + cs.length }

/-- A lexeme can grow by one text after the other. -/
theorem Grows.append {xs ys : List Char} {r : Pending} (hxs : Grows p xs q) (hys : Grows q ys r) :
    Grows p (xs ++ ys) r := by
  induction hxs with
  | nil => exact hys
  | cons hext _ ih => exact .cons hext (ih hys)

theorem grows_integer (h : ∀ c ∈ cs, Text.isDigit c = true) : Grows .integer cs .integer := by
  induction cs with
  | nil => exact .nil
  | cons c rest ih =>
    have hrest := ih fun d hd => h d (List.mem_cons_of_mem c hd)
    exact .cons (.integer (h c List.mem_cons_self)) hrest

theorem grows_decimal (h : ∀ c ∈ cs, Text.isDigit c = true) : Grows .decimal cs .decimal := by
  induction cs with
  | nil => exact .nil
  | cons c rest ih =>
    have hrest := ih fun d hd => h d (List.mem_cons_of_mem c hd)
    exact .cons (.decimal (h c List.mem_cons_self)) hrest

/-- A text by which the lexeme in progress grows is read into this lexeme. -/
theorem feed_of_grows (h : Grows s.pending cs q) : feed table cs s = .ok () (s.grown cs q) := by
  generalize hp : s.pending = p at h
  induction h generalizing s with
  | nil =>
    subst hp
    simp [feed, grown]
  | @cons c rest p q r hext _ ih =>
    subst hp
    rw [feed_cons_of_move (.extended hext), ih rfl]
    -- one character and then the rest make the lexeme longer by both
    simp only [grown, extend, advance, String.append_assoc, String.ofList_cons, List.length_cons,
      Int.natCast_add]
    rw [Int.add_assoc, Int.add_comm 1]
    rfl

/-! ## Whole numbers -/

/-- A number begins with a digit or a point, and the rest of its text makes it grow. -/
theorem exists_grows_of_isNumeral (h : Text.IsNumeral cs) :
    ∃ c rest p q, cs = c :: rest ∧ Grows p rest q ∧ (q = .integer ∨ q = .decimal) ∧
      (Text.isDigit c = true ∧ p = .integer ∨ c = '.' ∧ p = .lonePoint) := by
  rcases Text.isNumeral_iff.mp h with ⟨hne, hdigits⟩ | hdecimal
  · cases cs with
    | nil => exact absurd rfl hne
    | cons c rest =>
      have hrest := grows_integer fun d hd => hdigits d (List.mem_cons_of_mem c hd)
      exact ⟨c, rest, _, _, rfl, hrest, .inl rfl, .inl ⟨hdigits c List.mem_cons_self, rfl⟩⟩
  · obtain ⟨whole, fraction, rfl, hwhole, hfraction, hne⟩ := hdecimal
    cases whole with
    | nil =>
      -- the point comes first, so that a digit has to follow
      cases fraction with
      | nil => simp at hne
      | cons d rest =>
        have hrest := grows_decimal fun e he => hfraction e (List.mem_cons_of_mem d he)
        have hfirst : Extends d .lonePoint .decimal := .fraction (hfraction d List.mem_cons_self)
        exact ⟨'.', d :: rest, _, _, rfl, .cons hfirst hrest, .inr rfl, .inr ⟨rfl, rfl⟩⟩
    | cons c rest =>
      have hrest := grows_integer fun d hd => hwhole d (List.mem_cons_of_mem c hd)
      have hpoint : Grows .integer ('.' :: fraction) .decimal :=
        .cons (.point rfl) (grows_decimal hfraction)
      exact ⟨c, rest ++ '.' :: fraction, _, _, rfl, hrest.append hpoint, .inr rfl,
        .inl ⟨hwhole c List.mem_cons_self, rfl⟩⟩

/-- The state after a number was read behind a state. -/
structure NumberRead (table : OperatorTable) (s : Scanner) (cs : List Char) (s' : Scanner) :
    Prop where
  pending : s'.pending = .integer ∨ s'.pending = .decimal
  symbol : s'.symbol = String.ofList cs
  tokens : s'.tokens.toList = s.draft table ++
    if s.pending.endsOperand then [.operator .multiplication] else []
  implicit : s'.implicit.toList = s.implicit.toList ++
    if s.pending.endsOperand then [(s.draft table).length] else []
  brackets : s'.brackets = s.brackets

/-- A number can be read wherever none is in progress. -/
theorem exists_feed_of_isNumeral (h : Text.IsNumeral cs) (hs : s.pending.isNumber = false) :
    ∃ s', feed table cs s = .ok () s' ∧ NumberRead table s cs s' := by
  obtain ⟨c, rest, p, q, rfl, hgrows, hq, hfirst⟩ := exists_grows_of_isNumeral h
  -- the first character begins the number, and it grows by all others
  have hbegin : Begins table c s p := by
    rcases hfirst with ⟨hc, rfl⟩ | ⟨hc, rfl⟩
    · exact .digit hc hs
    · exact .point hc hs
  have hfactor : p.startsFactor = true := by
    rcases hfirst with ⟨-, rfl⟩ | ⟨-, rfl⟩ <;> rfl
  have hbrackets : p.logged s.position s.brackets = s.brackets := by
    rcases hfirst with ⟨-, rfl⟩ | ⟨-, rfl⟩ <;> rfl
  have hpending : (s.begun table c p).advance.pending = p := pending_begun
  refine ⟨_, (feed_cons_of_begins hbegin).trans (feed_of_grows (hpending ▸ hgrows)), ?_⟩
  refine ⟨hq, ?_, ?_, ?_, hbrackets⟩
  · show (s.begun table c p).symbol ++ String.ofList rest = _
    rw [symbol_begun, String.ofList_cons]
  · show (s.begun table c p).tokens.toList = _
    rw [toList_tokens_begun hbegin.ne_lonePoint, hfactor, Bool.and_true]
  · show (s.begun table c p).implicit.toList = _
    rw [toList_implicit_begun hbegin.ne_lonePoint, hfactor, Bool.and_true]

end ExprLex.Scanner
