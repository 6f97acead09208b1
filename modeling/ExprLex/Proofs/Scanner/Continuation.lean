import ExprLex.Proofs.Scanner.Matching
import ExprLex.Proofs.Scanner.Notices
import ExprLex.Proofs.Token.Concatenation

/-!
# Reading Behind an Earlier Text

A scanner that awaits an operand reads what comes as a fresh scanner does. Two runs go side by side:
one from the start, and one behind an earlier text, with its tokens in front, its characters before
the positions and its open brackets around. Each move keeps the two together, and an error of the
first run is an error of the second one at a position that is further on.
-/

namespace ExprLex

namespace Scanner

variable {table : OperatorTable} {s s' t : Scanner} {c : Char} {cs : List Char} {p : Pending}
  {e : SyntaxError} {lead : Tokenization} {offset depth : Int}

/-! ## Drafts with their inserted tokens -/

/-- The finished tokens of a state with the indices of the inserted ones. -/
def finished (s : Scanner) : Tokenization where
  tokens := s.tokens.toList
  implicit := s.implicit.toList

/-- The draft of a state with the indices of the inserted tokens. -/
def drafted (table : OperatorTable) (s : Scanner) : Tokenization :=
  s.finished ++ .written (draftToken? table s.symbol s.pending).toList

theorem drafted_fresh : fresh.drafted table = .empty := rfl

theorem drafted_advance : s.advance.drafted table = s.drafted table := rfl

theorem drafted_eq_mk (table : OperatorTable) (s : Scanner) :
    s.drafted table = ⟨s.draft table, s.implicit.toList⟩ := by
  apply Tokenization.eq_of_fields
  · rfl
  · simp [drafted, finished]

/-- A number in progress comes behind what has been finished. -/
theorem drafted_of_isNumber (h : s.pending.isNumber = true) :
    s.drafted table = s.finished ++ .written [.number s.symbol] := by
  rw [drafted, draftToken?_of_isNumber h, Option.toList_some]

/-- What a new lexeme leaves finished: the draft so far and, between factors side by side, a
multiplication. -/
theorem finished_begun (h : s.pending ≠ .lonePoint) :
    (s.begun table c p).finished = s.drafted table ++
      if s.pending.endsOperand && p.startsFactor then .inserted else .empty := by
  rw [drafted_eq_mk, finished, toList_tokens_begun h, toList_implicit_begun h]
  apply Tokenization.eq_of_fields
  · cases s.pending.endsOperand && p.startsFactor <;> rfl
  · cases s.pending.endsOperand && p.startsFactor <;>
      simp [Tokenization.inserted, Tokenization.empty]

/-- A lexeme that begins brings its own token and, if it is juxtaposed, a multiplication before it.
-/
theorem drafted_begun (h : s.pending ≠ .lonePoint) :
    (s.begun table c p).drafted table =
      s.drafted table ++ (if s.pending.endsOperand && p.startsFactor then .inserted else .empty)
        ++ .written (draftToken? table (String.singleton c) p).toList := by
  rw [drafted, finished_begun h, symbol_begun, pending_begun]

/-! ## Two runs side by side -/

/-- A state behind an earlier text next to the state that has read the same from the start. -/
structure Continues (table : OperatorTable) (lead : Tokenization) (offset depth : Int)
    (s t : Scanner) : Prop where
  lexeme : Matches s t
  drafted : t.drafted table = lead ++ s.drafted table
  position : t.position = s.position + offset
  depth : t.brackets.depth = s.brackets.depth + depth
  -- no bracket of the earlier text is closed
  nonneg : 0 ≤ s.brackets.depth
  newest : ∀ entry older, s.brackets.newestFirst = entry :: older →
    ∃ entry' older', t.brackets.newestFirst = entry' :: older' ∧
      entry'.position = entry.position + offset

/-- Where an operand is awaited, reading continues like from the start. -/
theorem continues_fresh (table : OperatorTable) (h : t.pending.awaitsOperand = true) :
    Continues table (t.drafted table) t.position t.brackets.depth fresh t where
  lexeme := .awaiting rfl rfl h
  drafted := (Tokenization.append_empty _).symm
  position := (Int.zero_add _).symm
  depth := (Int.zero_add _).symm
  nonneg := Int.le_refl 0
  newest _ _ hlog := by cases hlog

theorem Continues.advance (h : Continues table lead offset depth s t) :
    Continues table lead offset depth s.advance t.advance where
  lexeme := h.lexeme.advance
  drafted := h.drafted
  position := by
    show t.position + 1 = s.position + 1 + offset
    rw [h.position]
    omega
  depth := h.depth
  nonneg := h.nonneg
  newest := h.newest

theorem Continues.extend (h : Continues table lead offset depth s t)
    (hext : Extends c s.pending p) :
    Continues table lead offset depth (s.extend (String.singleton c) p)
      (t.extend (String.singleton c) p) where
  lexeme := by
    obtain ⟨-, hsymbol⟩ := h.lexeme.same_of_ne_empty hext.ne_empty_left
    exact .same rfl (by simp only [Scanner.extend, hsymbol])
  drafted := by
    -- the lexeme in progress is the same number, in front of which the finished tokens stand
    obtain ⟨hpending, hsymbol⟩ := h.lexeme.same_of_ne_empty hext.ne_empty_left
    have hdrafted := h.drafted
    rw [drafted_of_isNumber hext.isNumber, drafted_of_isNumber (hpending ▸ hext.isNumber), hsymbol,
      ← Tokenization.append_assoc] at hdrafted
    have hfinished := Tokenization.append_right_cancel hdrafted
    rw [drafted_of_isNumber hext.isNumber_right, drafted_of_isNumber hext.isNumber_right,
      ← Tokenization.append_assoc]
    show t.finished ++ .written [.number (t.symbol ++ _)] = _
    rw [hfinished, hsymbol]
    rfl
  position := h.position
  depth := h.depth
  nonneg := h.nonneg
  newest := h.newest

/-- A lexeme that begins does so in the continuation, at the shifted position. -/
theorem Continues.begun (h : Continues table lead offset depth s t) (hbegin : Begins table c s p) :
    Continues table lead offset depth (s.begun table c p) (t.begun table c p) where
  lexeme := .same (by simp) (by simp)
  drafted := by
    have hpoint := hbegin.ne_lonePoint
    rw [drafted_begun hpoint, drafted_begun (h.lexeme.ne_lonePoint hpoint), h.drafted,
      h.lexeme.endsOperand]
    simp only [Tokenization.append_assoc]
  position := by
    rw [position_begun, position_begun, h.position]
  depth := by
    rw [brackets_begun, brackets_begun, Pending.depth_logged, Pending.depth_logged, h.depth]
    omega
  nonneg := by
    rw [brackets_begun, Pending.depth_logged]
    have hnonneg := h.nonneg
    -- only a right bracket closes something, and it stands where something is open
    cases hbegin <;> simp only [Pending.depthStep] <;> omega
  newest := by
    rw [brackets_begun, brackets_begun]
    cases p with
    | leftBracket | rightBracket =>
      -- the new bracket is the newest one
      intro entry older hlog
      obtain ⟨rfl, -⟩ := List.cons.inj hlog
      exact ⟨_, _, rfl, h.position⟩
    | _ => exact h.newest

/-! ## The same runs -/

/-- A move is made in the continuation too, where all that comes before stays in front. -/
theorem Move.of_continues (h : Move table c s s') (hst : Continues table lead offset depth s t)
    (hdepth : 0 ≤ depth) :
    ∃ t', Move table c t t' ∧ Continues table lead offset depth s' t' := by
  cases h with
  | skipped hskip => exact ⟨t, .skipped hskip, hst⟩
  | extended hext => exact ⟨_, .extended (hext.of_matches hst.lexeme), hst.extend hext⟩
  | begun hbegin =>
    have hopen : s.brackets.depth ≠ 0 → t.brackets.depth ≠ 0 := by
      have hnonneg := hst.nonneg
      rw [hst.depth]
      omega
    exact ⟨_, .begun (hbegin.of_matches hst.lexeme hopen), hst.begun hbegin⟩

/-- What can be read from the start can be read behind an earlier text. -/
theorem feed_of_continues (hdepth : 0 ≤ depth) (hst : Continues table lead offset depth s t)
    (h : feed table cs s = .ok () s') :
    ∃ t', feed table cs t = .ok () t' ∧ Continues table lead offset depth s' t' := by
  apply simulation_of_moves (Continues table lead offset depth) ?_ hst h
  intro s t s' c hst hmove
  obtain ⟨t', hmove', ht'⟩ := hmove.of_continues hst hdepth
  exact ⟨t', hmove', ht'.advance⟩

/-- What fails from the start fails behind an earlier text in which no bracket is open. -/
theorem feed_error_of_continues (hst : Continues table lead offset 0 s t)
    (h : feed table cs s = .error e s') :
    ∃ t', feed table cs t = .error (e.movedBy offset) t' := by
  obtain ⟨before, c, after, rfl, hfeed, hfault⟩ := feed_eq_error_iff.mp h
  obtain ⟨t', hfeed', ht'⟩ := feed_of_continues (Int.le_refl 0) hst hfeed
  have hdepth : t'.brackets.depth = s'.brackets.depth := ht'.depth.trans (Int.add_zero _)
  have hfault' := hfault.of_matches ht'.lexeme hdepth ht'.position
  exact ⟨t', feed_eq_error_iff.mpr ⟨before, c, after, rfl, hfeed', hfault'⟩⟩

/-- What is owed at the end is owed in the continuation, at the shifted position. -/
theorem Owes.of_continues (h : s.Owes e) (hst : Continues table lead offset 0 s t) :
    t.Owes (e.movedBy offset) :=
  h.of_matches hst.lexeme (hst.depth.trans (Int.add_zero _)) hst.position hst.newest

end Scanner

end ExprLex
