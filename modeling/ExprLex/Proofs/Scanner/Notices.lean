import ExprLex.Proofs.Scanner.Agreement
import ExprLex.Proofs.Scanner.Fault

/-!
# What Is Told Does Not Matter

Two scanners are alike if they differ in nothing but what they told about their work. Alike scanners
read the same characters and stay alike, and they fail with the same errors. So an expression can be
read in a scanner that has worked before as it is in a fresh one.
-/

namespace ExprLex

namespace Scanner

/-- Two states are the same apart from notices. -/
structure Alike (s t : Scanner) : Prop where
  agree : s.Agree t
  position : s.position = t.position
  brackets : s.brackets = t.brackets

variable {table : OperatorTable} {s s' t : Scanner} {c : Char} {p : Pending} {e : SyntaxError}

theorem Alike.symm (h : s.Alike t) : t.Alike s :=
  ⟨h.agree.symm, h.position.symm, h.brackets.symm⟩

theorem Alike.trans {u : Scanner} (h : s.Alike t) (h' : t.Alike u) : s.Alike u :=
  ⟨h.agree.trans h'.agree, h.position.trans h'.position, h.brackets.trans h'.brackets⟩

/-- A reset makes any state like a new one. -/
theorem alike_reset_opening (s : Scanner) (expression : String) :
    s.reset.Alike (opening expression) :=
  ⟨⟨rfl, rfl, rfl, rfl, rfl⟩, rfl, rfl⟩

theorem alike_opening (expression expression' : String) :
    (opening expression).Alike (opening expression') :=
  ⟨⟨rfl, rfl, rfl, rfl, rfl⟩, rfl, rfl⟩

theorem alike_note (s : Scanner) (notice : Notice) : s.Alike (s.note notice) :=
  ⟨⟨rfl, rfl, rfl, rfl, rfl⟩, rfl, rfl⟩

/-- Whatever two scanners have done before, they are alike when the reading begins. -/
theorem alike_reset_note (s t : Scanner) (notice : Notice) :
    s.reset.Alike (t.reset.note notice) :=
  ⟨⟨rfl, rfl, rfl, rfl, rfl⟩, rfl, rfl⟩

theorem Alike.cleared (h : s.Alike t) :
    { s with tokens := #[], implicit := #[] }.Alike { t with tokens := #[], implicit := #[] } :=
  ⟨⟨rfl, rfl, h.agree.pending, h.agree.symbol, h.agree.depth⟩, h.position, h.brackets⟩

theorem Alike.commit (h : s.Alike t) : (s.commit table).Alike (t.commit table) := by
  unfold Scanner.commit
  rw [h.agree.symbol, h.agree.pending, h.agree.tokens, h.agree.implicit, h.position, h.brackets]
  cases pendingToken? table t.symbol t.pending with
  | none => exact ⟨⟨rfl, rfl, rfl, rfl, rfl⟩, rfl, rfl⟩
  | some token => exact ⟨⟨rfl, rfl, rfl, rfl, rfl⟩, rfl, rfl⟩

theorem Alike.advance (h : s.Alike t) : s.advance.Alike t.advance where
  agree := h.agree.advance
  position := by simp only [Scanner.advance, h.position]
  brackets := h.brackets

theorem Alike.extend (h : s.Alike t) (text : String) (p : Pending) :
    (s.extend text p).Alike (t.extend text p) :=
  ⟨h.agree.extend text p, h.position, h.brackets⟩

/-- States that are alike still are when the same lexeme begins in both. -/
theorem Alike.begun (h : s.Alike t) (hs : s.pending ≠ .lonePoint) :
    (s.begun table c p).Alike (t.begun table c p) where
  agree := h.agree.begun hs
  position := by rw [position_begun, position_begun, h.position]
  brackets := by rw [brackets_begun, brackets_begun, h.position, h.brackets]

/-! ## The same moves and the same errors -/

/-- A move of one state can be made in every state that is like it. -/
theorem Move.of_alike (h : Move table c s s') (hs : s.Alike t) :
    ∃ t', Move table c t t' ∧ s'.Alike t' := by
  cases h with
  | skipped hskip => exact ⟨t, .skipped hskip, hs⟩
  | extended hext => exact ⟨_, .extended (hs.agree.pending ▸ hext), hs.extend _ _⟩
  | begun hbegin => exact ⟨_, .begun (hbegin.of_agree hs.agree), hs.begun hbegin.ne_lonePoint⟩

/-- States that are alike still are after the same move and the advance behind it. -/
theorem Alike.move (hs : s.Alike t) (h : Move table c s s') :
    ∃ t', Move table c t t' ∧ s'.advance.Alike t'.advance := by
  obtain ⟨t', hmove, ht'⟩ := h.of_alike hs
  exact ⟨t', hmove, ht'.advance⟩

theorem Fault.of_alike (h : Fault table c s e) (hs : s.Alike t) : Fault table c t e := by
  have hposition : t.position = s.position + 0 := by rw [hs.position, Int.add_zero]
  have hmoved := h.of_matches hs.agree.matches hs.agree.depth.symm hposition
  rwa [h.movedBy_zero] at hmoved

theorem Owes.of_alike (h : s.Owes e) (hs : s.Alike t) : t.Owes e := by
  have hposition : t.position = s.position + 0 := by rw [hs.position, Int.add_zero]
  have hmoved := h.of_matches hs.agree.matches hs.agree.depth.symm hposition
    fun entry older hlog => ⟨entry, older, hs.brackets ▸ hlog, (Int.add_zero _).symm⟩
  rwa [h.movedBy_zero] at hmoved

/-- What can be read in a state can be read in one that is alike, and leaves a state alike. -/
theorem feed_of_alike {cs : List Char} (hs : s.Alike t) (h : feed table cs s = .ok () s') :
    ∃ t', feed table cs t = .ok () t' ∧ s'.Alike t' :=
  simulation_of_moves Alike Alike.move hs h

/-- What fails in a state fails in one that is alike, with the same error. -/
theorem feed_error_of_alike {cs : List Char} (hs : s.Alike t)
    (h : feed table cs s = .error e s') : ∃ t', feed table cs t = .error e t' ∧ s'.Alike t' := by
  obtain ⟨before, c, after, rfl, hfeed, hfault⟩ := feed_eq_error_iff.mp h
  obtain ⟨t', hfeed', ht'⟩ := feed_of_alike hs hfeed
  exact ⟨t', feed_eq_error_iff.mpr ⟨before, c, after, rfl, hfeed', hfault.of_alike ht'⟩, ht'⟩

/-- A text leads to a state with a property from both of two states that are alike, or from none, if
the property does not depend on notices. -/
theorem exists_feed_iff_of_alike {P : Scanner → Prop} {cs : List Char} (hs : s.Alike t)
    (hP : ∀ {s t : Scanner}, s.Alike t → P s → P t) :
    (∃ s', feed table cs s = .ok () s' ∧ P s') ↔ ∃ t', feed table cs t = .ok () t' ∧ P t' := by
  constructor
  · intro h
    obtain ⟨s', hfeed, hs'⟩ := h
    obtain ⟨t', hfeed', halike⟩ := feed_of_alike hs hfeed
    exact ⟨t', hfeed', hP halike hs'⟩
  · intro h
    obtain ⟨t', hfeed, ht'⟩ := h
    obtain ⟨s', hfeed', halike⟩ := feed_of_alike hs.symm hfeed
    exact ⟨s', hfeed', hP halike ht'⟩

/-- A text is refused with the same error in states that are alike. -/
theorem exists_feed_error_iff_of_alike {cs : List Char} (hs : s.Alike t) :
    (∃ s', feed table cs s = .error e s') ↔ ∃ t', feed table cs t = .error e t' := by
  constructor
  · intro h
    obtain ⟨s', hfail⟩ := h
    obtain ⟨t', hfail', -⟩ := feed_error_of_alike hs hfail
    exact ⟨t', hfail'⟩
  · intro h
    obtain ⟨t', hfail⟩ := h
    obtain ⟨s', hfail', -⟩ := feed_error_of_alike hs.symm hfail
    exact ⟨s', hfail'⟩

/-- What is refused in a state is refused in any that simulates it, with the same error, if the
simulation keeps states alike. -/
theorem rejects_of_simulation (R : Scanner → Scanner → Prop)
    (moved : ∀ {s t s' c}, R s t → Move table c s s' →
      ∃ t', Move table c t t' ∧ R s'.advance t'.advance)
    (alike : ∀ {s t}, R s t → s.Alike t) {cs : List Char} (hst : R s t)
    (h : Rejects table cs s e s') : ∃ t', Rejects table cs t e t' ∧ R s' t' := by
  rcases h with hfail | ⟨hfeed, howes⟩
  · obtain ⟨before, c, after, rfl, hfeed, hfault⟩ := feed_eq_error_iff.mp hfail
    obtain ⟨t', hfeed', ht'⟩ := simulation_of_moves R moved hst hfeed
    have hfault' := hfault.of_alike (alike ht')
    exact ⟨t', .inl (feed_eq_error_iff.mpr ⟨before, c, after, rfl, hfeed', hfault'⟩), ht'⟩
  · obtain ⟨t', hfeed', ht'⟩ := simulation_of_moves R moved hst hfeed
    exact ⟨t', .inr ⟨hfeed', howes.of_alike (alike ht')⟩, ht'⟩

/-- A text is rejected with the same error in states that are alike. -/
theorem Rejects.of_alike {cs : List Char} (h : Rejects table cs s e s') (hs : s.Alike t) :
    ∃ t', Rejects table cs t e t' ∧ s'.Alike t' :=
  rejects_of_simulation Alike Alike.move id hs h

/-! ## Whole expressions in any scanner -/

variable {expression : String} {read failed : Scanner}

/-- What can be read once earlier work is forgotten is accepted by every scanner. -/
theorem exists_readExpression_ok (hfeed : feed table expression.toList s.reset = .ok () read)
    (hcomplete : read.Complete) (t : Scanner) :
    ∃ t', readExpression table expression t = .ok (read.commit table).tokens.toList t' ∧
      (read.commit table).Alike t' := by
  obtain ⟨read', hfeed', halike⟩ := feed_of_alike (s.alike_reset_note t _) hfeed
  rw [halike.commit.agree.tokens]
  refine ⟨_, readExpression_eq_ok_iff.mpr
    ⟨read', hfeed', hcomplete.of_agree halike.agree, rfl, rfl⟩, ?_⟩
  exact halike.commit.trans (alike_note _ _)

/-- What fails once earlier work is forgotten is refused by every scanner. -/
theorem exists_readExpression_error (h : Rejects table expression.toList s.reset e failed)
    (t : Scanner) :
    ∃ t', readExpression table expression t = .error e t' ∧
      { failed with tokens := #[], implicit := #[] }.Alike t' := by
  obtain ⟨failed', hfailed', halike⟩ := h.of_alike (s.alike_reset_note t _)
  refine ⟨_, readExpression_eq_error_iff.mpr ⟨failed', hfailed', rfl⟩, ?_⟩
  exact (halike.trans (alike_note _ _)).cleared

end Scanner

section Fresh

variable {table : OperatorTable} {expression : String}

/-- **Acceptance by a fresh scanner.** That an expression was announced does not matter. -/
theorem tokenize_eq_ok_iff_fresh {t : Tokenization} :
    tokenize table expression = .ok t ↔
      ∃ s, Scanner.feed table expression.toList .fresh = .ok () s ∧ s.Complete ∧
        t = ⟨s.draft table, s.implicit.toList⟩ := by
  rw [tokenize_eq_ok_iff_draft]
  apply Scanner.exists_feed_iff_of_alike (Scanner.fresh.alike_reset_opening expression).symm
  intro s s' hs h
  obtain ⟨hcomplete, rfl⟩ := h
  refine ⟨hcomplete.of_agree hs.agree, ?_⟩
  rw [hs.agree.draft, hs.agree.implicit]

/-- **Refusal by a fresh scanner.** -/
theorem tokenize_eq_error_iff_fresh {e : SyntaxError} :
    tokenize table expression = .error e ↔
      (∃ s, Scanner.feed table expression.toList .fresh = .error e s) ∨
        ∃ s, Scanner.feed table expression.toList .fresh = .ok () s ∧ s.Owes e := by
  have halike := (Scanner.fresh.alike_reset_opening expression).symm
  rw [tokenize_eq_error_iff, Scanner.exists_feed_error_iff_of_alike halike,
    Scanner.exists_feed_iff_of_alike halike fun hs howes => howes.of_alike hs]
  rfl

end Fresh

end ExprLex
