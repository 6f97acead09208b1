import ExprLex.Proofs.Session.Reading
import Mathlib.Data.List.Induction

/-!
# No Operator in Progress Is Lost

The operator that a character denotes is not kept: it is looked up when the character is read, and
again when the lexeme is committed, whatever was done and registered in between. The second look-up
finds what the first one found, since registrations come last and nothing but reading brings an
operator into progress.
-/

namespace ExprLex

/-- The text that a command reads, which is empty for most. -/
def Command.text : Command → String
  | .tokenize text | .feed text | .read _ text => text
  | _ => ""

/-- Whether a command overwrites the state of the scanner from outside. -/
def Command.overwrites : Command → Bool
  | .prime .. => true
  | _ => false

namespace Scanner

variable {table : OperatorTable} {s s' : Scanner} {text : List Char} {c : Char} {p : Pending}
  {role : Operator.Role} {e : SyntaxError}

@[simp] theorem pending_commit : (s.commit table).pending = .empty := by
  unfold commit
  split <;> rfl

/-! ## Where an operator in progress comes from -/

/-- If an operator is in progress afterwards, it was so before, or its character is one of a text
and has an operator in its role. -/
def Sourced (table : OperatorTable) (text : List Char) (s s' : Scanner) : Prop :=
  ∀ role, s'.pending.role? = some role →
    (s'.pending = s.pending ∧ s'.symbol = s.symbol) ∨
      ∃ c ∈ text, s'.symbol = String.singleton c ∧
        ∃ op, table.inRole? role (String.singleton c) = some op

theorem sourced_of_eq (hp : s'.pending = s.pending) (hsymbol : s'.symbol = s.symbol) :
    Sourced table text s s' :=
  fun _ _ => .inl ⟨hp, hsymbol⟩

theorem sourced_of_role? (h : s'.pending.role? = none) : Sourced table text s s' := by
  intro role hrole
  rw [h] at hrole
  cases hrole

theorem Sourced.mono {longer : List Char} (h : Sourced table text s s') (hsub : text ⊆ longer) :
    Sourced table longer s s' := by
  intro role hrole
  rcases h role hrole with hkept | ⟨c, hc, hread⟩
  · exact .inl hkept
  · exact .inr ⟨c, hsub hc, hread⟩

/-- A state without an operator in progress is as good a start as any other. -/
theorem Sourced.of_role? {t : Scanner} (h : Sourced table text s s') (hs : s.pending.role? = none) :
    Sourced table text t s' := by
  intro role hrole
  rcases h role hrole with ⟨hp, -⟩ | hread
  · rw [hp, hs] at hrole
    cases hrole
  · exact .inr hread

theorem Extends.role? {q : Pending} (h : Extends c p q) : q.role? = none := by
  cases h <;> rfl

/-- An operator that begins has an operator of its role in the table. -/
theorem Begins.inRole? (h : Begins table c s p) (hrole : p.role? = some role) :
    ∃ op, table.inRole? role (String.singleton c) = some op := by
  cases h with
  | digit | point | left | right => cases hrole
  | sign hc =>
    cases hrole
    exact Option.isSome_iff_exists.mp (OperatorTable.actsAsSign_iff.mp hc).2
  | binary hc =>
    cases hrole
    exact Option.isSome_iff_exists.mp (OperatorTable.actsAsBinary_iff.mp hc).2.1
  | postfixOp hc =>
    cases hrole
    exact Option.isSome_iff_exists.mp (OperatorTable.actsAsPostfix_iff.mp hc).2

/-- A move brings an operator into progress only by its own character. -/
theorem Sourced.move {read : List Char} {start : Scanner} (hs : Sourced table read start s)
    (h : Move table c s s') : Sourced table (read ++ [c]) start s'.advance := by
  cases h with
  | skipped => exact hs.mono (List.subset_append_left ..)
  | extended hext => exact sourced_of_role? hext.role?
  | begun hbegin =>
    intro role hrole
    rw [pending_advance, pending_begun] at hrole
    exact .inr ⟨c, by simp, symbol_begun, hbegin.inRole? hrole⟩

/-- An operator that is in progress behind a text comes from the text or was there before. -/
theorem sourced_of_feed (h : feed table text s = .ok () s') : Sourced table text s s' :=
  invariant_of_moves (fun read s' => Sourced table read s s') [] Sourced.move
    (sourced_of_eq rfl rfl) h

theorem sourced_of_feed_error (h : feed table text s = .error e s') :
    Sourced table text s s' := by
  obtain ⟨before, c, after, rfl, hfeed, -⟩ := feed_eq_error_iff.mp h
  exact (sourced_of_feed hfeed).mono (List.subset_append_left ..)

/-- A rejected text leaves only operators in progress that come from it or were there before. -/
theorem sourced_of_rejects (h : Rejects table text s e s') : Sourced table text s s' := by
  rcases h with hfail | ⟨hfeed, -⟩
  · exact sourced_of_feed_error hfail
  · exact sourced_of_feed hfeed

end Scanner

namespace Session

variable {a : Session} {command : Command} {role : Operator.Role} {symbol : String}
  {op : Operator} {α : Type} {step : Scan α} {reply : α → Reply}

/-! ## What a command does to the operator in progress -/

/-- The scanner after a step is what the step leaves, whether it fails or not. -/
theorem scanner_scan {P : Scanner → Prop} {session : Session}
    (hok : ∀ result s', step session.scanner = .ok result s' → P s')
    (herror : ∀ e s', step session.scanner = .error e s' → P s') :
    P (session.scan step reply).2.scanner := by
  unfold scan
  split
  · rename_i result s' h
    exact hok result s' h
  · rename_i e s' h
    exact herror e s' h

theorem table_scan (session : Session) : (session.scan step reply).2.table = session.table := by
  unfold scan
  split <;> rfl

/-- Tokenizing an expression leaves only operators in progress that come from it. -/
private theorem sourced_tokenize (a : Session) (expression : String) :
    Scanner.Sourced a.table expression.toList a.scanner
      (a.perform (.tokenize expression)).2.scanner := by
  refine scanner_scan (P := Scanner.Sourced a.table expression.toList a.scanner) ?_ ?_
  · intro tokens s' h
    obtain ⟨read, -, -, -, rfl⟩ := Scanner.readExpression_eq_ok_iff.mp h
    refine Scanner.sourced_of_role? ?_
    show ((read.commit a.table).pending).role? = none
    rw [Scanner.pending_commit]
    rfl
  · intro e s' h
    obtain ⟨failed, hrejects, rfl⟩ := Scanner.readExpression_eq_error_iff.mp h
    exact (Scanner.sourced_of_rejects hrejects).of_role? rfl

/-- Nothing but reading brings an operator into progress, unless the state is overwritten. -/
theorem sourced_perform (a : Session) (h : command.overwrites = false) :
    Scanner.Sourced a.table command.text.toList a.scanner (a.perform command).2.scanner := by
  cases command with
  | tokenize expression => exact sourced_tokenize a expression
  | reset => exact Scanner.sourced_of_role? rfl
  | feed text =>
    exact scanner_scan (fun _ _ => Scanner.sourced_of_feed)
      fun _ _ => Scanner.sourced_of_feed_error
  | read reading text =>
    refine scanner_scan (P := Scanner.Sourced a.table text.toList a.scanner) ?_ ?_
    · -- only a character can bring an operator into progress
      intro _ s' hstep role hrole
      obtain ⟨hsymbol, op, hop⟩ := Reading.inRole?_of_step hstep hrole
      obtain ⟨c, rfl⟩ := OperatorTable.exists_char_of_inRole? hop
      exact .inr ⟨c, by simp, hsymbol, op, hop⟩
    · intro e s' hstep
      rw [Reading.step_error hstep]
      exact Scanner.sourced_of_eq rfl rfl
  | commit =>
    refine Scanner.sourced_of_role? ?_
    -- nothing is in progress behind a commit
    show ((a.scanner.commit a.table).pending).role? = none
    rw [Scanner.pending_commit]
    rfl
  | insertImplicit => exact Scanner.sourced_of_eq rfl rfl
  | finish =>
    refine scanner_scan (P := Scanner.Sourced a.table _ a.scanner) ?_ ?_
    · intro _ s' hfinish
      rw [(Scanner.finish_eq_ok_iff.mp hfinish).1]
      exact Scanner.sourced_of_eq rfl rfl
    · intro e s' hfinish
      rw [(Scanner.finish_eq_error_iff.mp hfinish).1]
      exact Scanner.sourced_of_eq rfl rfl
  | register symbol op =>
    unfold perform
    dsimp only
    split <;> exact Scanner.sourced_of_eq rfl rfl
  | prime => cases h

/-- What the table has found it finds after any command. -/
theorem inRole?_perform (h : a.table.inRole? role symbol = some op) (command : Command) :
    (a.perform command).2.table.inRole? role symbol = some op := by
  cases command with
  | tokenize | feed | read | finish =>
    rw [perform, table_scan]
    exact h
  | reset | commit | insertImplicit | prime => exact h
  | register other found =>
    unfold perform
    dsimp only
    split
    · rename_i table hregister
      exact OperatorTable.inRole?_of_register hregister h
    · exact h

/-! ## Sessions -/

/-- The session after commands. -/
def after (session : Session) (commands : List Command) : Session :=
  commands.foldl (fun session command => (session.perform command).2) session

theorem after_append (session : Session) (xs ys : List Command) :
    session.after (xs ++ ys) = (session.after xs).after ys :=
  List.foldl_append

theorem after_append_singleton (session : Session) (commands : List Command) (command : Command) :
    session.after (commands ++ [command]) = ((session.after commands).perform command).2 :=
  after_append ..

/-- A command of a session read the character of an operator in progress. -/
structure ReadBy (session : Session) (earlier : List Command) (reading : Command)
    (later : List Command) (role : Operator.Role) (c : Char) (op : Operator) : Prop where
  /-- The command reads the character. -/
  mem : c ∈ reading.text.toList
  /-- The table in use then has the operator for it. -/
  found : (session.after earlier).table.inRole? role (String.singleton c) = some op
  /-- The character has been in progress since. -/
  kept : ∀ passed, passed <+: later →
    (session.after (earlier ++ reading :: passed)).scanner.pending.role? = some role ∧
      (session.after (earlier ++ reading :: passed)).scanner.symbol = String.singleton c

variable {session : Session} {commands earlier later : List Command} {reading : Command} {c : Char}

/-- What a table has found in a role it finds after any commands. -/
theorem inRole?_after (h : a.table.inRole? role symbol = some op) (commands : List Command) :
    (a.after commands).table.inRole? role symbol = some op := by
  induction commands generalizing a with
  | nil => exact h
  | cons command rest ih => exact ih (inRole?_perform h command)

/-- The operator that was found when the character was read is found at the end. -/
theorem ReadBy.pendingToken? (h : ReadBy session earlier reading later role c op) :
    let last := session.after (earlier ++ reading :: later)
    Scanner.pendingToken? last.table last.scanner.symbol last.scanner.pending =
      some (.operator op) := by
  obtain ⟨hrole, hsymbol⟩ := h.kept later (List.prefix_refl later)
  have hfound : (session.after (earlier ++ reading :: later)).table.inRole? role
      (String.singleton c) = some op := by
    rw [after_append]
    exact inRole?_after h.found _
  intro last
  rw [Scanner.pendingToken?_of_role? hrole, hsymbol]
  exact congrArg (Option.map Token.operator) hfound

/-- An operator stays in progress while later commands leave it so. -/
theorem ReadBy.append_command (h : ReadBy session earlier reading later role c op)
    (hrole : (session.after (earlier ++ reading :: (later ++ [command]))).scanner.pending.role? =
      some role)
    (hsymbol : (session.after (earlier ++ reading :: (later ++ [command]))).scanner.symbol =
      String.singleton c) :
    ReadBy session earlier reading (later ++ [command]) role c op where
  mem := h.mem
  found := h.found
  kept := by
    intro passed hpassed
    rcases List.prefix_concat_iff.mp hpassed with rfl | hshorter
    · exact ⟨hrole, hsymbol⟩
    · exact h.kept passed hshorter

/-- Every operator in progress was read by a command, if none was at the start. -/
theorem exists_readBy (hstart : session.scanner.pending.role? = none)
    (hcommands : ∀ command ∈ commands, command.overwrites = false)
    (hrole : (session.after commands).scanner.pending.role? = some role) :
    ∃ earlier reading later c op, commands = earlier ++ reading :: later ∧
      ReadBy session earlier reading later role c op := by
  -- induction on the commands, the last one first: it either read the operator or kept it
  induction commands using List.reverseRecOn with
  | nil =>
    change session.scanner.pending.role? = some role at hrole
    rw [hstart] at hrole
    cases hrole
  | append_singleton commands command ih =>
    have hlast := sourced_perform (session.after commands) (hcommands command (by simp))
    rw [← after_append_singleton] at hlast
    rcases hlast role hrole with ⟨hp, hsymbol⟩ | ⟨c, hc, hsymbol, op, hop⟩
    · have hearlier : ∀ command ∈ commands, command.overwrites = false :=
        fun command hmem => hcommands command (List.mem_append_left _ hmem)
      obtain ⟨earlier, reading, later, c, op, rfl, hread⟩ := ih hearlier (hp ▸ hrole)
      have hkept := hread.kept later (List.prefix_refl later)
      have hsplit : earlier ++ reading :: later ++ [command] =
          earlier ++ reading :: (later ++ [command]) := by simp
      rw [hsplit] at hrole hsymbol
      exact ⟨earlier, reading, later ++ [command], c, op, hsplit,
        hread.append_command hrole (hsymbol.trans hkept.2)⟩
    · refine ⟨commands, command, [], c, op, rfl, hc, hop, ?_⟩
      intro passed hpassed
      rw [List.prefix_nil.mp hpassed]
      exact ⟨hrole, hsymbol⟩

/-- A lexeme has a token unless it is a point without digits, if its operator is found. -/
theorem exists_pendingToken? {table : OperatorTable} {s : Scanner}
    (hoperator : ∀ role, s.pending.role? = some role →
      ∃ op, Scanner.pendingToken? table s.symbol s.pending = some (.operator op))
    (hempty : s.pending ≠ .empty) (hpoint : s.pending ≠ .lonePoint) :
    ∃ token, Scanner.pendingToken? table s.symbol s.pending = some token := by
  cases hrole : s.pending.role? with
  | some role =>
    obtain ⟨op, hop⟩ := hoperator role hrole
    exact ⟨_, hop⟩
  | none =>
    cases hp : s.pending with
    | empty => exact absurd hp hempty
    | lonePoint => exact absurd hp hpoint
    | sign | binary | postfixOp => rw [hp] at hrole; cases hrole
    | _ => exact ⟨_, rfl⟩

/-- **No operator in progress is lost.** In a session whose state is not overwritten from outside,
an operator in progress was read by one of the commands and has been in progress since, and
committing it gives the operator that the table had when it was read. So a commit adds exactly one
token unless there is no lexeme or only a point without digits. Such a point is never committed by
reading: behind it a text is refused, passed over or added to it, and an expression that ends with
it is not accepted. -/
theorem pendingOperator_committed :
    (∀ {table : OperatorTable} {commands : List Command},
      (∀ command ∈ commands, command.overwrites = false) →
      let last := (start table).after commands
      (∀ role, last.scanner.pending.role? = some role →
        ∃ earlier reading later c op, commands = earlier ++ reading :: later ∧
          ReadBy (start table) earlier reading later role c op ∧
          Scanner.pendingToken? last.table last.scanner.symbol last.scanner.pending =
            some (.operator op)) ∧
        (last.scanner.pending ≠ .empty → last.scanner.pending ≠ .lonePoint →
          ∃ token, (last.scanner.commit last.table).tokens = last.scanner.tokens.push token)) ∧
      (∀ {table : OperatorTable} {s : Scanner}, s.pending = .lonePoint →
        (∀ (reading : Reading) (text : String),
          reading.step table text s = .ok () (s.extend text .decimal) ∨
            ∃ e, reading.step table text s = .error e s) ∧
          ∀ c : Char, Scanner.readChar table c s = .ok () s ∨
            Scanner.readChar table c s = .ok () (s.extend (String.singleton c) .decimal) ∨
            ∃ e, Scanner.readChar table c s = .error e s) ∧
      ∀ {table : OperatorTable} {expression : String} {s s' : Scanner} {tokens : List Token},
        Scanner.readExpression table expression s = .ok tokens s' →
        ∃ read, Scanner.feed table expression.toList (s.reset.note (.started expression)) =
            .ok () read ∧
          read.pending ≠ .lonePoint ∧ tokens = (read.commit table).tokens.toList := by
  refine ⟨?_, ?_, ?_⟩
  · intro table commands hcommands last
    have hoperator : ∀ role, last.scanner.pending.role? = some role →
        ∃ earlier reading later c op, commands = earlier ++ reading :: later ∧
          ReadBy (start table) earlier reading later role c op ∧
          Scanner.pendingToken? last.table last.scanner.symbol last.scanner.pending =
            some (.operator op) := by
      intro role hrole
      obtain ⟨earlier, reading, later, c, op, rfl, hread⟩ := exists_readBy rfl hcommands hrole
      exact ⟨earlier, reading, later, c, op, rfl, hread, hread.pendingToken?⟩
    refine ⟨hoperator, ?_⟩
    intro hempty hpoint
    -- what is in progress is a number, a bracket or one of those operators
    obtain ⟨token, htoken⟩ := exists_pendingToken? (fun role hrole => by
      obtain ⟨_, _, _, _, op, _, _, hop⟩ := hoperator role hrole
      exact ⟨op, hop⟩) hempty hpoint
    refine ⟨token, ?_⟩
    rw [Scanner.commit, htoken]
  · intro table s hp
    exact ⟨fun reading text => reading.step_of_lonePoint table text hp,
      fun c => Scanner.readChar_of_lonePoint table c hp⟩
  · intro table expression s s' tokens h
    obtain ⟨read, hfeed, hcomplete, htokens, -⟩ := Scanner.readExpression_eq_ok_iff.mp h
    exact ⟨read, hfeed, hcomplete.ne_lonePoint, htokens⟩

/-- The minus of `2-` stays a subtraction, although another operator is registered for it behind the
first one and two commands fail before it is committed. -/
theorem pendingOperator_committed_minus :
    let commands : List Command :=
      [.feed "2-", .register "-" .power, .read .right ")", .finish]
    let table : OperatorTable := { OperatorTable.standard with readOnly := false }
    let last := (start table).after commands
    let point : Scanner := { Scanner.fresh with pending := .lonePoint, symbol := "." }
    ((∀ command ∈ commands, command.overwrites = false) ∧
      (∃ earlier reading later c, commands = earlier ++ reading :: later ∧
        ReadBy (start table) earlier reading later .binary c .subtraction) ∧
      ∃ token, (last.scanner.commit last.table).tokens = last.scanner.tokens.push token) ∧
      (Reading.left.step .standard "(" point = .ok () (point.extend "(" .decimal) ∨
        ∃ e, Reading.left.step .standard "(" point = .error e point) ∧
      ∃ read, Scanner.feed .standard ".5".toList (.opening ".5") = .ok () read ∧
        read.pending ≠ .lonePoint := by
  intro commands table last point
  have hcommands : ∀ command ∈ commands, command.overwrites = false := by decide +kernel
  obtain ⟨hsession, hpoint, haccepts⟩ := pendingOperator_committed
  obtain ⟨hoperator, hcommit⟩ := @hsession table commands hcommands
  refine ⟨⟨hcommands, ?_, hcommit (by decide +kernel) (by decide +kernel)⟩, ?_, ?_⟩
  · obtain ⟨earlier, reading, later, c, op, hsplit, hread, hop⟩ := hoperator .binary rfl
    have hminus : Scanner.pendingToken? last.table last.scanner.symbol last.scanner.pending =
        some (.operator .subtraction) := by
      decide +kernel
    obtain rfl : Operator.subtraction = op :=
      Token.operator.inj (Option.some.inj (hminus.symm.trans hop))
    exact ⟨earlier, reading, later, c, hsplit, hread⟩
  · exact (hpoint rfl).1 .left "("
  · have haccepted : Scanner.readExpression .standard ".5" .fresh = .ok [.number ".5"] _ := rfl
    obtain ⟨read, hfeed, hne, -⟩ := haccepts haccepted
    exact ⟨read, hfeed, hne⟩

end Session

end ExprLex
