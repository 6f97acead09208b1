import ExprLex.Proofs.Scanner.Notices
import ExprLex.Proofs.Session.Reading

/-!
# What Is Refused Leaves No Trace

Each step of the scanner makes its checks before its changes, so that a text which is refused leaves
everything as it was, even in a state that no text leads to. An expression that is refused has
therefore been read as far as it can be read, and the scanner is left there, without tokens.
-/

namespace ExprLex

namespace Scanner

/-! ## How far a text can be read -/

/-- From a state, a text can be read up to a place and no further. -/
structure ReadsUpTo (table : OperatorTable) (text : List Char) (s : Scanner) (before : List Char)
    (read : Scanner) : Prop where
  /-- What can be read is at the front of the text. -/
  front : before <+: text
  /-- It leaves the given state. -/
  reads : feed table before s = .ok () read
  /-- Whatever else can be read at the front of the text is a part of it. -/
  longest : ∀ {other : List Char} {s' : Scanner},
    other <+: text → feed table other s = .ok () s' → other <+: before

variable {table : OperatorTable} {before after text : List Char} {c : Char} {s s' read : Scanner}
  {e : SyntaxError}

theorem readsUpTo_of_feed (h : feed table text s = .ok () read) :
    ReadsUpTo table text s text read :=
  ⟨List.prefix_refl text, h, fun hfront _ => hfront⟩

theorem readsUpTo_of_fault (h : feed table before s = .ok () read) (hfault : Fault table c read e) :
    ReadsUpTo table (before ++ c :: after) s before read where
  front := List.prefix_append before (c :: after)
  reads := h
  longest := by
    intro other s' hfront hother
    have hnext : before ++ [c] <+: before ++ c :: after := by
      simp [List.prefix_append_right_inj]
    -- the character at fault would have been read
    have hstop : ∀ rest, other ≠ before ++ c :: rest := by
      rintro rest rfl
      obtain ⟨read', hread', hrest⟩ := feed_append_eq_ok_iff.mp hother
      rw [h] at hread'
      cases hread'
      rw [feed_cons_of_fault hfault] at hrest
      cases hrest
    rcases List.prefix_or_prefix_of_prefix hfront hnext with hshort | ⟨rest, hlong⟩
    · rcases List.prefix_concat_iff.mp hshort with hequal | hshorter
      · exact absurd hequal (hstop [])
      · exact hshorter
    · rw [List.append_assoc, List.singleton_append] at hlong
      exact absurd hlong.symm (hstop rest)

/-- What is rejected leaves the state behind all that can be read of it. -/
theorem Rejects.exists_readsUpTo (h : Rejects table text s e s') :
    ∃ before, ReadsUpTo table text s before s' := by
  rcases h with hfail | ⟨hfeed, -⟩
  · obtain ⟨before, c, after, rfl, hfeed, hfault⟩ := feed_eq_error_iff.mp hfail
    exact ⟨before, readsUpTo_of_fault hfeed hfault⟩
  · exact ⟨text, readsUpTo_of_feed hfeed⟩

end Scanner

namespace Session

variable {session after : Session} {α : Type} {step : Scan α} {reply : α → Reply}
  {e : SessionError}

/-- A step of a session fails exactly as the step of its scanner does. -/
theorem scan_eq_error_iff : session.scan step reply = (.error e, after) ↔
    ∃ reason s', step session.scanner = .error reason s' ∧ e = .notAnExpression reason ∧
      after = { session with scanner := s' } := by
  unfold scan
  cases step session.scanner with
  | ok result s' => simp
  | error reason s' =>
    constructor
    · intro h
      cases h
      exact ⟨reason, s', rfl, rfl, rfl⟩
    · intro h
      obtain ⟨reason, s', hstep, rfl, rfl⟩ := h
      cases hstep
      rfl

theorem eq_of_scan_error (h : session.scan step reply = (.error e, after))
    (hstep : ∀ reason s', step session.scanner = .error reason s' → s' = session.scanner) :
    after = session := by
  obtain ⟨reason, s', herror, -, rfl⟩ := scan_eq_error_iff.mp h
  rw [hstep reason s' herror]

/-- **What is refused leaves no trace.** A character that is refused leaves the scanner as it was,
in any state. So does any text that is refused in whatever way it is read, and the session with it.
An expression that is refused leaves no tokens; otherwise the scanner is left where it is after the
longest part at the front of the expression that can be read once earlier work is forgotten. -/
theorem refused_unchanged :
    (∀ {table : OperatorTable} {c : Char} {s s' : Scanner} {e : SyntaxError},
      Scanner.readChar table c s = .error e s' → s' = s) ∧
      (∀ {session after : Session} {c : Char} {e : SessionError},
        session.perform (.feed (String.singleton c)) = (.error e, after) → after = session) ∧
      (∀ {session after : Session} {reading : Reading} {text : String} {e : SessionError},
        session.perform (.read reading text) = (.error e, after) → after = session) ∧
      ∀ {session after : Session} {expression : String} {e : SessionError},
        session.perform (.tokenize expression) = (.error e, after) →
          after.table = session.table ∧ after.scanner.tokens = #[] ∧
            after.scanner.implicit = #[] ∧
            ∃ before read, Scanner.ReadsUpTo session.table expression.toList
                session.scanner.reset before read ∧
              after.scanner.pending = read.pending ∧ after.scanner.symbol = read.symbol ∧
              after.scanner.position = read.position ∧ after.scanner.brackets = read.brackets := by
  refine ⟨?_, ?_, ?_, ?_⟩
  · intro table c s s' e h
    exact (Scanner.readChar_eq_error_iff.mp h).1
  · intro session after c e h
    refine eq_of_scan_error h fun reason s' hfeed => ?_
    rw [String.toList_singleton] at hfeed
    exact (Scanner.feed_singleton_eq_error_iff.mp hfeed).1
  · intro session after reading text e h
    exact eq_of_scan_error h fun reason s' hstep => Reading.step_error hstep
  · intro session after expression e h
    obtain ⟨reason, s', hread, -, rfl⟩ := scan_eq_error_iff.mp h
    obtain ⟨failed, hrejects, rfl⟩ := Scanner.readExpression_eq_error_iff.mp hread
    -- that the expression was announced does not matter
    obtain ⟨read, hrejects', halike⟩ :=
      hrejects.of_alike (session.scanner.alike_reset_note session.scanner _).symm
    obtain ⟨before, hreads⟩ := hrejects'.exists_readsUpTo
    exact ⟨rfl, rfl, rfl, before, read, hreads, halike.agree.pending, halike.agree.symbol,
      halike.position, halike.brackets⟩

/-- A product that awaits its right factor at a position in front of the text, where a level is open
although only a right bracket is recorded, stays as it is when a bracket closes it. Of `2+(3-)` all
but the last bracket is read. -/
theorem refused_unchanged_owed_factor :
    let session : Session := ⟨.standard, { Scanner.fresh with
      tokens := #[.bracket .right], implicit := #[7], pending := .binary, symbol := "*",
      position := -3, brackets := ⟨[⟨2, 1, .right⟩]⟩ }⟩
    let e := SyntaxError.missingRight "*" (-4)
    (∃ s, Scanner.readChar .standard ')' session.scanner = .error e s ∧ s = session.scanner) ∧
      (∃ after, session.perform (.feed ")") = (.error (.notAnExpression e), after) ∧
        after = session) ∧
      (∃ after, session.perform (.read .right ")") = (.error (.notAnExpression e), after) ∧
        after = session) ∧
      ∃ after, session.perform (.tokenize "2+(3-)") =
          (.error (.notAnExpression (.missingRight "-" 4)), after) ∧
        after.scanner.tokens = #[] ∧ after.scanner.pending = .binary ∧
        after.scanner.position = 5 := by
  intro session e
  have htokenize : (session.perform (.tokenize "2+(3-)")).1 =
      .error (.notAnExpression (.missingRight "-" 4)) := by
    unfold session
    rfl
  have hchar : Scanner.readChar .standard ')' session.scanner = .error e _ := rfl
  have hfeed : session.perform (.feed (String.singleton ')')) =
      (.error (.notAnExpression e), _) := rfl
  have hread : session.perform (.read .right ")") = (.error (.notAnExpression e), _) := rfl
  have hafter := refused_unchanged.2.2.2 (Prod.ext htokenize rfl)
  exact ⟨⟨_, hchar, refused_unchanged.1 hchar⟩, ⟨_, hfeed, refused_unchanged.2.1 hfeed⟩,
    ⟨_, hread, refused_unchanged.2.2.1 hread⟩,
    _, Prod.ext htokenize rfl, hafter.2.1, by decide +kernel, by decide +kernel⟩

end Session

end ExprLex
