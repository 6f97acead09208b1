import ExprLex.Proofs.Scanner.Notices
import ExprLex.Session

/-!
# Reading Piece by Piece

An expression can be read in pieces, wherever it is cut, if earlier work is forgotten first and the
end is checked and the last lexeme committed afterwards. This succeeds for the expressions that a
fresh scanner accepts, leaves what that scanner leaves, and fails with its errors. What the session
did before does not matter, whether it succeeded or failed.
-/

namespace ExprLex

namespace Session

/-- Two sessions are the same apart from what was told. -/
structure Alike (a b : Session) : Prop where
  table : a.table = b.table
  scanner : a.scanner.Alike b.scanner

/-- Whether a command was answered by an error. -/
def failed (step : Except SessionError Reply × Session) : Bool :=
  !step.1.isOk

@[simp] theorem failed_ok (reply : Reply) (session : Session) :
    failed (.ok reply, session) = false :=
  rfl

@[simp] theorem failed_error (e : SessionError) (session : Session) :
    failed (.error e, session) = true :=
  rfl

/-- The commands that read an expression piece by piece. -/
def piecewise (pieces : List String) : List Command :=
  .reset :: (pieces.map .feed ++ [.finish, .commit])

variable {table : OperatorTable} {s s' : Scanner} {α : Type} {step : Scan α} {reply : α → Reply}
  {e : SyntaxError} {pieces : List String}

theorem scan_ok {result : α} (h : step s = .ok result s') :
    scan ⟨table, s⟩ step reply = (.ok (reply result), ⟨table, s'⟩) := by
  simp [scan, h]

theorem scan_error (h : step s = .error e s') :
    scan ⟨table, s⟩ step reply = (.error (.notAnExpression e), ⟨table, s'⟩) := by
  simp [scan, h]

/-! ## Pieces -/

/-- Pieces that can be read together can be read one after the other. -/
theorem performAll_feeds (h : Scanner.feed table (String.join pieces).toList s = .ok () s')
    (rest : List Command) :
    ∃ steps, (∀ step ∈ steps, failed step = false) ∧
      performAll ⟨table, s⟩ (pieces.map .feed ++ rest) =
        steps ++ performAll ⟨table, s'⟩ rest := by
  induction pieces generalizing s with
  | nil =>
    cases h
    exact ⟨[], by simp, rfl⟩
  | cons piece pieces ih =>
    rw [String.join_cons, String.toList_append] at h
    obtain ⟨read, hpiece, hrest⟩ := Scanner.feed_append_eq_ok_iff.mp h
    obtain ⟨steps, hok, hsteps⟩ := ih hrest
    refine ⟨(.ok .nothing, ⟨table, read⟩) :: steps, by simpa using hok, ?_⟩
    simp [performAll, perform, scan_ok hpiece, hsteps]

/-- Pieces that cannot be read together fail with the same error at one of them. -/
theorem find?_performAll_feeds
    (h : Scanner.feed table (String.join pieces).toList s = .error e s') (rest : List Command) :
    (performAll ⟨table, s⟩ (pieces.map .feed ++ rest)).find? failed =
      some (.error (.notAnExpression e), ⟨table, s'⟩) := by
  induction pieces generalizing s with
  | nil => cases h
  | cons piece pieces ih =>
    rw [String.join_cons, String.toList_append, Scanner.feed_append] at h
    cases hpiece : Scanner.feed table piece.toList s with
    | error e' stopped =>
      rw [hpiece] at h
      cases h
      simp [performAll, perform, scan_error hpiece]
    | ok _ read =>
      rw [hpiece] at h
      simp [performAll, perform, scan_ok hpiece, ih h]

/-! ## The outcome -/

/-- Pieces of an expression that can be read do not fail, and neither does the end. -/
theorem performAll_piecewise
    (hfeed : Scanner.feed table (String.join pieces).toList s.reset = .ok () s')
    (hcomplete : s'.Complete) :
    (∀ step ∈ performAll ⟨table, s⟩ (piecewise pieces), failed step = false) ∧
      (performAll ⟨table, s⟩ (piecewise pieces)).getLast? =
        some (.ok (.committed s'.pending), ⟨table, s'.commit table⟩) := by
  obtain ⟨steps, hok, hsteps⟩ := performAll_feeds hfeed [.finish, .commit]
  have hfinish : Scanner.finish s' = .ok () s' := Scanner.finish_eq_ok_iff.mpr ⟨rfl, hcomplete⟩
  have hall : performAll ⟨table, s⟩ (piecewise pieces) =
      (.ok .nothing, ⟨table, s.reset⟩) :: (steps ++ [(.ok .nothing, ⟨table, s'⟩),
        (.ok (.committed s'.pending), ⟨table, s'.commit table⟩)]) := by
    simp [piecewise, performAll, perform, update, hsteps, scan_ok hfinish]
  rw [hall]
  constructor
  · simpa [or_imp, forall_and] using hok
  · simp [List.getLast?_cons]

/-- Pieces of an expression that is rejected fail with its error first. -/
theorem find?_performAll_piecewise
    (h : Scanner.Rejects table (String.join pieces).toList s.reset e s') :
    (performAll ⟨table, s⟩ (piecewise pieces)).find? failed =
      some (.error (.notAnExpression e), ⟨table, s'⟩) := by
  have hreset : performAll ⟨table, s⟩ (piecewise pieces) =
      (.ok .nothing, ⟨table, s.reset⟩) ::
        performAll ⟨table, s.reset⟩ (pieces.map .feed ++ [.finish, .commit]) := rfl
  rw [hreset, List.find?_cons_of_neg (by simp)]
  rcases h with hfail | ⟨hfeed, howes⟩
  · exact find?_performAll_feeds hfail _
  · obtain ⟨steps, hok, hsteps⟩ := performAll_feeds hfeed [.finish, .commit]
    have hfinish : Scanner.finish s' = .error e s' := Scanner.finish_eq_error_iff.mpr ⟨rfl, howes⟩
    have hnone : steps.find? failed = none := by simpa using hok
    rw [hsteps, List.find?_append, hnone]
    simp [performAll, perform, scan_error hfinish]

/-- **Reading piece by piece is reading at once, whatever came before.** An expression is cut into
pieces, and a session in any state forgets its earlier work, reads the pieces one after the other,
checks the end and commits the last lexeme. Nothing of this fails exactly if a fresh session accepts
the expression, and then both scanners are left in the same state. If the fresh session refuses it,
the first command that fails tells the same error. The session in that state can also read the
expression at once, with the answer and the final state of the fresh one. -/
theorem performAll_pieces (session : Session) (pieces : List String) :
    let steps := session.performAll (piecewise pieces)
    let fresh := (start session.table).perform (.tokenize (String.join pieces))
    let used := session.perform (.tokenize (String.join pieces))
    ((∀ step ∈ steps, failed step = false) ↔ failed fresh = false) ∧
      (failed fresh = false → ∃ last ∈ steps.getLast?, last.2.Alike fresh.2) ∧
      (failed fresh = true → ∃ first ∈ steps.find? failed, first.1 = fresh.1) ∧
      used.1 = fresh.1 ∧ used.2.Alike fresh.2 := by
  obtain ⟨table, s⟩ := session
  intro steps fresh used
  rcases Scanner.completes_or_rejects table (String.join pieces).toList s.reset with
    ⟨read, hfeed, hcomplete⟩ | ⟨e, stopped, hrejects⟩
  · -- the expression is read, at once as well as piece by piece
    obtain ⟨s', hs, hs'⟩ := Scanner.exists_readExpression_ok hfeed hcomplete s
    obtain ⟨t', ht, ht'⟩ := Scanner.exists_readExpression_ok hfeed hcomplete .fresh
    have hused : used = (.ok (.tokens (read.commit table).tokens.toList), ⟨table, s'⟩) := scan_ok hs
    have hfresh : fresh = (.ok (.tokens (read.commit table).tokens.toList), ⟨table, t'⟩) :=
      scan_ok ht
    obtain ⟨hok, hlast⟩ := performAll_piecewise hfeed hcomplete
    rw [hused, hfresh]
    exact ⟨⟨fun _ => rfl, fun _ => hok⟩, fun _ => ⟨_, hlast, rfl, ht'⟩, by simp, rfl, rfl,
      hs'.symm.trans ht'⟩
  · -- the expression is rejected, with the error that the pieces meet first
    obtain ⟨s', hs, hs'⟩ := Scanner.exists_readExpression_error hrejects s
    obtain ⟨t', ht, ht'⟩ := Scanner.exists_readExpression_error hrejects .fresh
    have hused : used = (.error (.notAnExpression e), ⟨table, s'⟩) := scan_error hs
    have hfresh : fresh = (.error (.notAnExpression e), ⟨table, t'⟩) := scan_error ht
    have hfirst := find?_performAll_piecewise hrejects
    rw [hused, hfresh]
    refine ⟨⟨?_, by simp⟩, by simp, fun _ => ⟨_, hfirst, rfl⟩, rfl, rfl, hs'.symm.trans ht'⟩
    intro hok
    rw [List.find?_eq_none.mpr (by simpa using hok)] at hfirst
    cases hfirst

/-- A bracket that is open from earlier work does not let `2)3` pass when it is read in pieces. -/
theorem performAll_pieces_open_bracket :
    let session : Session := ⟨.standard, { Scanner.fresh with
      pending := .binary, symbol := "+", brackets := BracketLog.empty.opened 3 .left }⟩
    ∃ first ∈ (session.performAll (piecewise ["2", ")3"])).find? failed,
      first.1 = .error (.notAnExpression (.unmatchedRight 1)) := by
  intro session
  have hrefused : ((start .standard).perform (.tokenize (String.join ["2", ")3"]))).1 =
      .error (.notAnExpression (.unmatchedRight 1)) :=
    rfl
  obtain ⟨first, hfirst, hsame⟩ := (performAll_pieces session ["2", ")3"]).2.2.1 rfl
  exact ⟨first, hfirst, hsame.trans hrefused⟩

end Session

end ExprLex
