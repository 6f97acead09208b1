import ExprLex.Proofs.Operator.Registration
import ExprLex.Proofs.Scanner.Lexeme

/-!
# Only Roles Matter

A table is asked for nothing but the operators of a character in the three roles, and only for
characters of the expression without a fixed meaning. Two tables that answer these questions alike
read the expression alike, whether it is accepted or refused. So it does not matter what is
registered for other characters, or behind the operator that fills a role.
-/

namespace ExprLex

variable {a b table extended : OperatorTable} {text : List Char} {c : Char} {expression : String}

namespace OperatorTable

/-- Two tables give a character the same operator in each role. -/
def SameRoles (a b : OperatorTable) (c : Char) : Prop :=
  ∀ role, a.inRole? role (String.singleton c) = b.inRole? role (String.singleton c)

/-- Two tables give the same roles to all characters of a text that have no fixed meaning. -/
def SameRolesIn (a b : OperatorTable) (text : List Char) : Prop :=
  ∀ c ∈ text, Text.isReserved c = false → a.SameRoles b c

theorem SameRoles.isOperator (h : a.SameRoles b c) :
    a.isOperator (String.singleton c) = b.isOperator (String.singleton c) := by
  have hsign : a.sign? (String.singleton c) = b.sign? (String.singleton c) := h .sign
  have hbinary : a.binary? (String.singleton c) = b.binary? (String.singleton c) := h .binary
  have hpost : a.postfixOp? (String.singleton c) = b.postfixOp? (String.singleton c) :=
    h .postfixOp
  -- a character is an operator if it has one of the roles
  rw [Bool.eq_iff_iff, isOperator_iff, isOperator_iff, hsign, hbinary, hpost]

end OperatorTable

/-! ## Runs with two tables -/

namespace Scanner

variable {s s' : Scanner} {cs : List Char} {p : Pending}

/-- Two tables find the same token for the lexeme in progress. -/
def SameToken (a b : OperatorTable) (s : Scanner) : Prop :=
  pendingToken? a s.symbol s.pending = pendingToken? b s.symbol s.pending

theorem sameToken_of_empty (h : s.pending = .empty) : s.SameToken a b := by
  rw [SameToken, h]
  rfl

theorem SameToken.advance (h : s.SameToken a b) : s.advance.SameToken a b :=
  h

theorem SameToken.commit (h : s.SameToken a b) : s.commit a = s.commit b := by
  unfold Scanner.commit
  rw [h]

theorem SameToken.next (h : s.SameToken a b) (juxtaposed : Bool) (symbol : String) (p : Pending) :
    s.next a juxtaposed symbol p = s.next b juxtaposed symbol p := by
  unfold Scanner.next
  rw [h.commit]

/-- An operator is read by its roles alone. -/
theorem readOperator_congr (hroles : a.SameRoles b c) (hs : s.SameToken a b) :
    readOperator a (String.singleton c) s = readOperator b (String.singleton c) s := by
  have hsign : a.sign? (String.singleton c) = b.sign? (String.singleton c) := hroles .sign
  have hbinary : a.binary? (String.singleton c) = b.binary? (String.singleton c) := hroles .binary
  have hpost : a.postfixOp? (String.singleton c) = b.postfixOp? (String.singleton c) :=
    hroles .postfixOp
  simp only [readOperator, hsign, hbinary, hpost, hs.next]

/-- A character is read alike with two tables that agree on it and on the lexeme in progress. -/
theorem readChar_congr (hroles : Text.isReserved c = false → a.SameRoles b c)
    (hs : s.SameToken a b) : readChar a c s = readChar b c s := by
  cases hr : Text.isReserved c with
  | false =>
    have hsame := (hroles hr).isOperator
    cases hop : a.isOperator (String.singleton c) with
    | true =>
      rw [readChar_eq_readOperator hr hop, readChar_eq_readOperator hr (hsame ▸ hop)]
      exact readOperator_congr (hroles hr) hs
    | false =>
      obtain ⟨hdigit, hpoint, hleft, hright⟩ := Text.isReserved_eq_false_iff.mp hr
      simp only [readChar, hdigit, hpoint, hleft, hright, ← hsame, hop, Bool.false_eq_true,
        if_false]
  | true =>
    -- the meaning is fixed, so that only the commit looks something up
    have hfixed : Text.isDigit c = true ∨ c = '.' ∨ c = '(' ∨ c = ')' := by
      simpa [Text.isReserved, Text.isNumeric, or_assoc] using hr
    rcases hfixed with hdigit | rfl | rfl | rfl
    · simp only [readChar, hdigit, if_true, readDigit, hs.next]
    · show readPoint a (String.singleton '.') s = readPoint b (String.singleton '.') s
      simp only [readPoint, hs.next]
    · show readLeft a (String.singleton '(') s = readLeft b (String.singleton '(') s
      simp only [readLeft, hs.next]
    · show readRight a (String.singleton ')') s = readRight b (String.singleton ')') s
      simp only [readRight, hs.next]

/-- What begins at a character of the same roles is the same token. -/
theorem Begins.pendingToken?_congr (h : Begins a c s p)
    (hroles : Text.isReserved c = false → a.SameRoles b c) :
    pendingToken? a (String.singleton c) p = pendingToken? b (String.singleton c) p := by
  cases h with
  | digit | point | left | right => rfl
  | sign hc =>
    exact congrArg (Option.map _) (hroles (OperatorTable.actsAsSign_iff.mp hc).1 .sign)
  | binary hc =>
    exact congrArg (Option.map _) (hroles (OperatorTable.actsAsBinary_iff.mp hc).1 .binary)
  | postfixOp hc =>
    exact congrArg (Option.map _) (hroles (OperatorTable.actsAsPostfix_iff.mp hc).1 .postfixOp)

/-- Behind a move, two tables that agree on its character agree on the lexeme in progress. -/
theorem SameToken.move (hs : s.SameToken a b) (h : Move a c s s')
    (hroles : Text.isReserved c = false → a.SameRoles b c) : s'.SameToken a b := by
  cases h with
  | skipped => exact hs
  | @extended p hext =>
    -- numbers are not looked up
    have hnumber := hext.isNumber_right
    show pendingToken? a _ p = pendingToken? b _ p
    cases p <;> first | rfl | cases hnumber
  | begun hbegin =>
    rw [SameToken, symbol_begun, pending_begun]
    exact hbegin.pendingToken?_congr hroles

/-- A text is read by the roles of its characters alone. -/
theorem feed_congr (hroles : a.SameRolesIn b cs) (hs : s.SameToken a b) :
    feed a cs s = feed b cs s := by
  induction cs generalizing s with
  | nil => rfl
  | cons c rest ih =>
    have hc := hroles c List.mem_cons_self
    have hrest : a.SameRolesIn b rest := fun d hd => hroles d (List.mem_cons_of_mem c hd)
    simp only [feed, ← readChar_congr hc hs]
    cases hread : readChar a c s with
    | error e failed => rfl
    | ok _ read => exact ih hrest (hs.move (readChar_eq_ok_iff.mp hread) hc).advance

/-- The token in progress behind a text depends only on the roles of its characters. -/
theorem SameToken.feed (hs : s.SameToken a b) (hroles : a.SameRolesIn b cs)
    (h : feed a cs s = .ok () s') : s'.SameToken a b := by
  induction cs generalizing s with
  | nil =>
    cases h
    exact hs
  | cons c rest ih =>
    obtain ⟨read, hmove, hfeed⟩ := feed_cons_eq_ok_iff.mp h
    have hread := hs.move hmove (hroles c List.mem_cons_self)
    exact ih hread.advance (fun d hd => hroles d (List.mem_cons_of_mem c hd)) hfeed

/-- Any scanner reads an expression alike with two tables that agree on its characters. Nothing that
is left differs, be it tokens or an error, the state or what was told. -/
theorem readExpression_congr (hroles : a.SameRolesIn b expression.toList) (s : Scanner) :
    readExpression a expression s = readExpression b expression s := by
  have hs : (s.reset.note (.started expression)).SameToken a b := sameToken_of_empty rfl
  have hfeed := feed_congr hroles hs
  rcases completes_or_rejects a expression.toList (s.reset.note (.started expression)) with
    ⟨read, hread, hcomplete⟩ | ⟨e, failed, hrejects⟩
  · rw [readExpression_eq_ok_iff.mpr ⟨read, hread, hcomplete, rfl, rfl⟩,
      readExpression_eq_ok_iff.mpr ⟨read, hfeed ▸ hread, hcomplete, rfl, rfl⟩,
      (hs.feed hroles hread).commit]
  · have hrejects' : Rejects b expression.toList (s.reset.note (.started expression)) e failed := by
      rwa [Rejects, ← hfeed]
    rw [readExpression_eq_error_iff.mpr ⟨failed, hrejects, rfl⟩,
      readExpression_eq_error_iff.mpr ⟨failed, hrejects', rfl⟩]

end Scanner

/-! ## Registrations that do not matter -/

namespace OperatorTable

variable {op : Operator} {symbol : String} {registrations : List (String × Operator)}

/-- It does not matter to a text that an operator is registered under a character. -/
inductive Idle (table : OperatorTable) (text : List Char) (c : Char) (op : Operator) : Prop where
  /-- The text does not have the character. -/
  | absent : c ∉ text → Idle table text c op
  /-- The character has a fixed meaning. -/
  | reserved : Text.isReserved c = true → Idle table text c op
  /-- The character has an operator of the same role. -/
  | filled {first : Operator} : table.inRole? op.role (String.singleton c) = some first →
      Idle table text c op

/-- What is idle before a registration is idle after it. -/
theorem Idle.register {d : Char} {other : Operator}
    (h : table.Idle text d other) (hregister : table.register symbol op = .ok extended) :
    extended.Idle text d other := by
  cases h with
  | absent hc => exact .absent hc
  | reserved hr => exact .reserved hr
  | filled hfound => exact .filled (inRole?_of_register hregister hfound)

theorem SameRolesIn.trans {last : OperatorTable} (h : a.SameRolesIn b text)
    (h' : b.SameRolesIn last text) : a.SameRolesIn last text :=
  fun c hc hr role => (h c hc hr role).trans (h' c hc hr role)

/-- One idle registration leaves all roles in the text as they are. -/
theorem Idle.sameRolesIn (h : table.Idle text c op)
    (hregister : table.register (String.singleton c) op = .ok extended) :
    extended.SameRolesIn table text := by
  intro d hd hr role
  rw [inRole?_register hregister]
  by_cases hplace : String.singleton d = String.singleton c ∧ op.role = role
  · -- the operator comes behind the one that fills the role
    obtain ⟨hdc, rfl⟩ := hplace
    obtain rfl := String.singleton_inj.mp hdc
    cases h with
    | absent hc => exact absurd hd hc
    | reserved hc => rw [hr] at hc; cases hc
    | filled hfound => rw [hfound, Option.some_or]
  · rw [if_neg hplace, Option.or_none]

/-- Idle registrations leave all roles as they are. -/
theorem sameRolesIn_of_registerAll (h : table.registerAll registrations = .ok extended)
    (hidle : ∀ entry ∈ registrations, ∀ c, entry.1 = String.singleton c →
      table.Idle text c entry.2) :
    extended.SameRolesIn table text := by
  -- induction on the registrations: what is idle at the start stays idle
  induction registrations generalizing table with
  | nil =>
    cases h
    exact fun c hc hr role => rfl
  | cons entry rest ih =>
    obtain ⟨symbol, op⟩ := entry
    obtain ⟨first, hregister, hothers⟩ := registerAll_cons_eq_ok_iff.mp h
    obtain ⟨-, c, rfl, -⟩ := register_eq_ok_iff.mp hregister
    have hfirst := hidle _ List.mem_cons_self c rfl
    have hrest := ih hothers fun entry hentry d hd =>
      (hidle entry (List.mem_cons_of_mem _ hentry) d hd).register hregister
    exact hrest.trans (hfirst.sameRolesIn hregister)

end OperatorTable

/-- **Only roles matter.** Two tables that give the characters of an expression the same operators
in the three roles, fixed meanings apart, read it to the same tokens or refuse it with the same
error. So registrations never matter under characters that the expression does not have, under
those with a fixed meaning, and in roles that are filled. -/
theorem tokenize_roles :
    (∀ {a b : OperatorTable} {expression : String}, a.SameRolesIn b expression.toList →
      tokenize a expression = tokenize b expression) ∧
    ∀ {table extended : OperatorTable} {registrations : List (String × Operator)}
      {expression : String}, table.registerAll registrations = .ok extended →
      (∀ entry ∈ registrations, ∀ c, entry.1 = String.singleton c →
        table.Idle expression.toList c entry.2) →
      tokenize extended expression = tokenize table expression := by
  have hsame {a b : OperatorTable} {expression : String}
      (h : a.SameRolesIn b expression.toList) : tokenize a expression = tokenize b expression := by
    unfold tokenize
    rw [Scanner.readExpression_congr h]
  refine ⟨hsame, ?_⟩
  intro table extended registrations expression hregister hidle
  exact hsame (OperatorTable.sameRolesIn_of_registerAll hregister hidle)

/-- For `5-(-2)`, a table with the two operators of the minus in another order and nothing else is
as good as the standard one, and it does not matter what is registered for the percent sign, for the
five, and as a second operator between two operands for the minus. -/
theorem tokenize_roles_minus :
    (OperatorTable.SameRolesIn ⟨[('-', [.subtraction, .minus])], false⟩ .standard
        "5-(-2)".toList ∧
      tokenize ⟨[('-', [.subtraction, .minus])], false⟩ "5-(-2)" =
        tokenize .standard "5-(-2)") ∧
      OperatorTable.registerAll { OperatorTable.standard with readOnly := false }
          [("%", .factorial), ("5", .power), ("-", .addition)] =
        .ok ⟨[('+', [.plus, .addition]), ('-', [.minus, .subtraction, .addition]),
          ('*', [.multiplication]), ('/', [.division]), ('^', [.power]), ('!', [.factorial]),
          ('%', [.factorial]), ('5', [.power])], false⟩ ∧
      tokenize ⟨[('+', [.plus, .addition]), ('-', [.minus, .subtraction, .addition]),
          ('*', [.multiplication]), ('/', [.division]), ('^', [.power]), ('!', [.factorial]),
          ('%', [.factorial]), ('5', [.power])], false⟩ "5-(-2)" =
        tokenize { OperatorTable.standard with readOnly := false } "5-(-2)" := by
  have hroles : OperatorTable.SameRolesIn ⟨[('-', [.subtraction, .minus])], false⟩ .standard
      "5-(-2)".toList := by
    intro c hc hr role
    -- the minus is the only character without a fixed meaning
    have hminus : ("5-(-2)".toList.all fun c => Text.isReserved c || c == '-') = true := by
      decide +kernel
    have hc' := List.all_eq_true.mp hminus c hc
    rw [Bool.or_eq_true, beq_iff_eq] at hc'
    rcases hc' with hreserved | rfl
    · rw [hr] at hreserved
      cases hreserved
    · cases role <;> rfl
  have hregister : OperatorTable.registerAll { OperatorTable.standard with readOnly := false }
      [("%", .factorial), ("5", .power), ("-", .addition)] =
        .ok ⟨[('+', [.plus, .addition]), ('-', [.minus, .subtraction, .addition]),
          ('*', [.multiplication]), ('/', [.division]), ('^', [.power]), ('!', [.factorial]),
          ('%', [.factorial]), ('5', [.power])], false⟩ := rfl
  refine ⟨⟨hroles, tokenize_roles.1 hroles⟩, hregister, tokenize_roles.2 hregister ?_⟩
  intro entry hentry c hc
  simp only [List.mem_cons, List.not_mem_nil, or_false] at hentry
  rcases hentry with rfl | rfl | rfl
  · obtain rfl : '%' = c := String.singleton_inj.mp hc
    exact .absent (by decide +kernel)
  · obtain rfl : '5' = c := String.singleton_inj.mp hc
    exact .reserved (by decide +kernel)
  · obtain rfl : '-' = c := String.singleton_inj.mp hc
    exact .filled rfl

end ExprLex
