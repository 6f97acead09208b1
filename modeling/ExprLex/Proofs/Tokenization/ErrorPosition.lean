import ExprLex.Proofs.Scanner.Reflection
import ExprLex.Proofs.Scanner.Stop

/-!
# Where Errors Point

The position of an error is always one in the expression. An error about a character points at it,
and everything before it can be read. An error about what is missing behind a point or an operator
is told one place before reading stops, so that blanks may stand between the two. An open bracket is
told at the last bracket of either side.
-/

namespace ExprLex

variable {table : OperatorTable} {text before after rest : List Char} {c w : Char}
  {token : String} {i : Nat} {s : Scanner} {e : SyntaxError}

/-! ## What stands at a position -/

/-- The text at fault is the character at a place, and all before it can be read. -/
def StopsAt (table : OperatorTable) (text : List Char) (i : Nat) (token : String) : Prop :=
  text[i]?.map String.singleton = some token ∧
    ∃ s, Scanner.feed table (text.take i) .fresh = .ok () s

/-- The text at fault is the last visible character up to a place, the place included. -/
def LastVisibleAt (table : OperatorTable) (text : List Char) (i : Nat) (token : String) : Prop :=
  (table.visible (text.take (i + 1))).getLast?.map String.singleton = some token

/-- What is at the position of an error of a kind. -/
def SyntaxErrorKind.PointsAt (kind : SyntaxErrorKind) (table : OperatorTable) (text : List Char)
    (i : Nat) (token : String) : Prop :=
  match kind with
  | .unknownSymbol | .multiplePoints | .unmatchedRight | .emptyBrackets | .missingLeft =>
    StopsAt table text i token
  | .trailingPoint | .missingRight => LastVisibleAt table text i token
  | .unmatchedLeft => (Text.brackets text).getLast?.map Prod.snd = some i
  -- no expression is refused for a reason that is not told
  | .general => False

/-- An error points at a place in a text. -/
structure SyntaxError.Located (e : SyntaxError) (table : OperatorTable) (text : List Char)
    (i : Nat) : Prop where
  position : e.position = i
  lt_length : i < text.length
  pointsAt : e.kind.PointsAt table text i e.token

theorem stopsAt_of_feed (h : ∃ s, Scanner.feed table before .fresh = .ok () s) :
    StopsAt table (before ++ c :: rest) before.length (String.singleton c) := by
  constructor
  · simp
  · rwa [List.take_left]

/-- A character that is not passed over is the last visible one up to itself. -/
theorem lastVisibleAt_of_not_skips (h : table.skips c = false) :
    LastVisibleAt table (before ++ c :: rest) before.length (String.singleton c) := by
  have htake : (before ++ c :: rest).take (before.length + 1) = before ++ [c] := by
    rw [List.take_length_add_append]
    rfl
  rw [LastVisibleAt, htake, Scanner.visible_append_of_not_skips h, List.getLast?_concat]
  rfl

/-- The last visible character of a text is the one up to the place before its end. -/
theorem lastVisibleAt_of_getLast? (after : List Char)
    (h : (table.visible before).getLast? = some w) :
    ∃ i, before.length = i + 1 ∧
      LastVisibleAt table (before ++ after) i (String.singleton w) := by
  cases hlength : before.length with
  | zero =>
    -- nothing is visible in an empty text
    rw [List.eq_nil_of_length_eq_zero hlength] at h
    cases h
  | succ i =>
    refine ⟨i, rfl, ?_⟩
    rw [LastVisibleAt, ← hlength, List.take_left, h]
    rfl

/-- Where nothing is passed over, the last visible character up to a place is the one at it. -/
theorem LastVisibleAt.getElem? (h : LastVisibleAt table text i token) (hi : i < text.length)
    (hskips : ∀ c ∈ text, table.skips c = false) :
    text[i]?.map String.singleton = some token := by
  have hvisible : table.visible (text.take (i + 1)) = text.take (i + 1) := by
    refine List.filter_eq_self.mpr ?_
    intro c hc
    rw [hskips c (List.mem_of_mem_take hc)]
    rfl
  rw [LastVisibleAt, hvisible, List.getLast?_take] at h
  simpa [List.getElem?_eq_getElem hi] using h

/-- Where nothing is passed over, what an error is about is the character at its position. -/
theorem SyntaxError.Located.getElem? (h : e.Located table text i)
    (hskips : ∀ c ∈ text, table.skips c = false) (hkind : e.kind ≠ .unmatchedLeft) :
    text[i]?.map String.singleton = some e.token := by
  have hpoints := h.pointsAt
  cases hk : e.kind with
  | unmatchedLeft => exact absurd hk hkind
  | general =>
    rw [hk] at hpoints
    cases hpoints
  | trailingPoint | missingRight =>
    rw [hk] at hpoints
    exact LastVisibleAt.getElem? hpoints h.lt_length hskips
  | _ =>
    rw [hk] at hpoints
    exact hpoints.1

/-! ## Every error points at something -/

namespace Scanner

/-- An error about the character at which reading stops. -/
theorem Reflects.located_here (hs : s.Reflects table before)
    (hread : ∃ s, feed table before fresh = .ok () s) (hposition : e.position = s.position)
    (htoken : e.token = String.singleton c)
    (hkind : StopsAt table (before ++ c :: rest) before.length e.token →
      e.kind.PointsAt table (before ++ c :: rest) before.length e.token) :
    e.Located table (before ++ c :: rest) before.length where
  position := hposition.trans hs.position
  lt_length := by simp
  pointsAt := hkind (htoken ▸ stopsAt_of_feed hread)

/-- An error about the last character before reading stops. -/
theorem Reflects.exists_located_behind (hs : s.Reflects table before)
    (hposition : e.position = s.position - 1)
    (hlast : (table.visible before).getLast? = some w) (htoken : e.token = String.singleton w)
    (hkind : ∀ {i}, LastVisibleAt table (before ++ after) i e.token →
      e.kind.PointsAt table (before ++ after) i e.token) :
    ∃ i, e.Located table (before ++ after) i := by
  obtain ⟨i, hi, hvisible⟩ := lastVisibleAt_of_getLast? after hlast
  refine ⟨i, ?_, ?_, hkind (htoken ▸ hvisible)⟩
  · rw [hposition, hs.position]
    omega
  · rw [List.length_append]
    omega

/-- An error about a character points at it or at what stands before it. -/
theorem Fault.exists_located (h : Fault table c s e) (hs : s.Reflects table before)
    (hread : ∃ s, feed table before fresh = .ok () s) :
    ∃ i, e.Located table (before ++ c :: rest) i := by
  cases h with
  | secondPoint hc hp => exact ⟨_, hs.located_here hread rfl (hc ▸ rfl) id⟩
  | barePoint hp hc =>
    exact hs.exists_located_behind rfl (hs.last_of_lonePoint hp) rfl id
  | closesNothing hc hd => exact ⟨_, hs.located_here hread rfl (hc ▸ rfl) id⟩
  | closesEmpty hc hd hp => exact ⟨_, hs.located_here hread rfl (hc ▸ rfl) id⟩
  | closesOwed hc hd hp =>
    obtain ⟨w, hlast, hsymbol, -⟩ := hs.last_of_owed hp
    exact hs.exists_located_behind rfl hlast hsymbol id
  | onlySign hacts hbinary hpost hp =>
    -- the sign is visible, so that it is the last visible character up to itself
    have hskips : table.skips c = false :=
      OperatorTable.skips_of_isOperator (OperatorTable.acts_iff.mp hacts).2
    exact ⟨_, hs.located_here hread rfl rfl fun _ => lastVisibleAt_of_not_skips hskips⟩
  | noLeftOperand hsign hrole hp => exact ⟨_, hs.located_here hread rfl rfl id⟩
  | unknown hr hacts hblank => exact ⟨_, hs.located_here hread rfl rfl id⟩

/-- An error at the end points at a place in the text. -/
theorem Owes.exists_located (h : s.Owes e) (hs : s.Reflects table before) :
    ∃ i, e.Located table before i := by
  rw [← List.append_nil before]
  cases h with
  | digit hp => exact hs.exists_located_behind rfl (hs.last_of_lonePoint hp) rfl id
  | operand hp =>
    obtain ⟨w, hlast, hsymbol, -⟩ := hs.last_of_owed hp
    exact hs.exists_located_behind rfl hlast hsymbol id
  | bracket hend hd hlog =>
    obtain ⟨i, hlast, hposition⟩ := hs.getLast?_brackets hlog
    rw [List.append_nil]
    refine ⟨i, hposition, Text.lt_length_of_mem_brackets (List.mem_of_getLast? hlast), ?_⟩
    show (Text.brackets before).getLast?.map Prod.snd = some i
    rw [hlast]
    rfl

end Scanner

/-- Every error of an expression points at a place in it. -/
theorem exists_located_of_tokenize {expression : String}
    (h : tokenize table expression = .error e) :
    ∃ i : Nat, e.Located table expression.toList i := by
  obtain ⟨before, after, hstops⟩ := Scanner.exists_stops table expression.toList
  obtain ⟨s, hs, hrefused⟩ := refused_of_tokenize h hstops
  have hreflects := Scanner.reflects_of_feed (Scanner.reflects_opening expression) hs
  rw [hstops.split]
  cases after with
  | nil =>
    rw [List.append_nil]
    exact Scanner.Owes.exists_located hrefused hreflects
  | cons c rest => exact Scanner.Fault.exists_located hrefused hreflects hstops.reads

/-- **Errors point at what they are about.** The position of an error is that of a character of the
expression, and what the error is about is found there; if nothing in the expression is passed over,
it is that very character, unless a bracket is open. -/
theorem located_of_tokenize {expression : String} (h : tokenize table expression = .error e) :
    ∃ i : Nat, e.Located table expression.toList i ∧
      ((∀ c ∈ expression.toList, table.skips c = false) → e.kind ≠ .unmatchedLeft →
        expression.toList[i]?.map String.singleton = some e.token) := by
  obtain ⟨i, hi⟩ := exists_located_of_tokenize h
  refine ⟨i, hi, ?_⟩
  intro hskips hkind
  exact hi.getElem? hskips hkind

/-- The product sign in `(5* )` has no operand behind it. It stands before the blank at the position
that is told, and without the blank at that position. -/
theorem located_product_sign :
    (tokenize .standard "(5* )" = .error (.missingRight "*" 3) ∧
        ∃ i : Nat, (SyntaxError.missingRight "*" 3).Located .standard "(5* )".toList i) ∧
      (tokenize .standard "(5*)" = .error (.missingRight "*" 2) ∧
        ∃ i : Nat, (SyntaxError.missingRight "*" 2).Located .standard "(5*)".toList i ∧
          "(5*)".toList[i]?.map String.singleton = some "*") := by
  have hblank : tokenize .standard "(5* )" = .error (.missingRight "*" 3) := by decide +kernel
  have hplain : tokenize .standard "(5*)" = .error (.missingRight "*" 2) := by decide +kernel
  have hall : "(5*)".toList.all (fun c => !OperatorTable.standard.skips c) = true := by
    decide +kernel
  have hskips : ∀ c ∈ "(5*)".toList, OperatorTable.standard.skips c = false := by
    intro c hc
    simpa using List.all_eq_true.mp hall c hc
  obtain ⟨i, hi, -⟩ := located_of_tokenize hblank
  obtain ⟨j, hj, hchar⟩ := located_of_tokenize hplain
  exact ⟨⟨hblank, i, hi⟩, hplain, j, hj, hchar hskips (by decide)⟩

end ExprLex
