import ExprLex.Proofs.Scanner.Progress
import ExprLex.Proofs.Tokenization.Juxtaposition
import ExprLex.Proofs.Tokenization.Operand
import Mathlib.Data.List.Forall2

/-!
# Groups Side by Side

An accepted expression in brackets is a group, which can stand behind an operand as well as where an
operand is awaited; in the former case a multiplication is inserted in front of it. So groups side
by side are read to the product of what they hold, by induction on the groups.
-/

namespace ExprLex

variable {table : OperatorTable}

/-- A text is an accepted expression with the given tokens, of which there are some. -/
structure AcceptedAs (table : OperatorTable) (text : String) (t : Tokenization) : Prop where
  accepted : tokenize table text = .ok t
  ne_nil : t.tokens ≠ []

namespace Scanner

variable {s s' : Scanner} {t u : Tokenization} {a : String}

/-- What is read in two parts comes side by side. -/
theorem TokensRead.trans {s'' : Scanner} (h : s.TokensRead table t s')
    (h' : s'.TokensRead table u s'') : s.TokensRead table (t ++ u) s'' where
  drafted := by rw [h'.drafted, h.drafted, Tokenization.append_assoc]
  ended := h'.ended
  depth := h'.depth.trans h.depth

/-- A group is read behind what was there, with a multiplication in front of it if an operand has
ended. -/
theorem exists_feed_grouped (h : AcceptedAs table a t)
    (hs : s.pending ≠ .lonePoint) (hdepth : 0 ≤ s.brackets.depth) :
    ∃ s', feed table ('(' :: a.toList ++ [')']) s = .ok () s' ∧
      s.TokensRead table
        ((if s.pending.endsOperand then .inserted else .empty) ++ t.grouped) s' := by
  have hopened : (s.begun table '(' .leftBracket).advance.brackets.depth = s.brackets.depth + 1 :=
    rfl
  have hawaits : (s.begun table '(' .leftBracket).advance.pending.awaitsOperand = true := by
    simp [Pending.awaitsOperand]
  -- inside the brackets, the expression is read as anywhere else
  obtain ⟨last, hfeed, hread⟩ := exists_feed_of_tokenize h.accepted h.ne_nil hawaits (by omega)
  have hlast : last.brackets.depth = s.brackets.depth + 1 := hread.depth.trans hopened
  refine ⟨_, feed_bracketed hs hdepth hfeed hread.ended hlast, ?_, ?_, ?_⟩
  · rw [drafted_advance, drafted_begun (Pending.ne_lonePoint_of_endsOperand hread.ended),
      hread.drafted, drafted_advance, drafted_begun hs]
    simp [Tokenization.grouped, Tokenization.append_assoc, Pending.startsFactor, draftToken?,
      pendingToken?]
  · simp [Pending.endsOperand]
  · show last.brackets.depth - 1 = s.brackets.depth
    omega

/-- Groups side by side are read behind an operand, each with a multiplication in front of it. -/
theorem exists_feed_multiplied {texts : List String} {ts : List Tokenization}
    (h : List.Forall₂ (AcceptedAs table) texts ts) (hs : s.pending.endsOperand = true)
    (hdepth : 0 ≤ s.brackets.depth) :
    ∃ s', feed table (texts.flatMap fun a => '(' :: a.toList ++ [')']) s = .ok () s' ∧
      s.TokensRead table (.multiplied ts) s' := by
  induction h generalizing s with
  | nil => exact ⟨s, rfl, (Tokenization.append_empty _).symm, hs, rfl⟩
  | cons hgroup _ ih =>
    obtain ⟨read, hfeed, hread⟩ :=
      exists_feed_grouped hgroup (Pending.ne_lonePoint_of_endsOperand hs) hdepth
    rw [if_pos hs] at hread
    obtain ⟨s', hfeed', hs'⟩ := ih hread.ended (hread.depth ▸ hdepth)
    exact ⟨s', feed_append_eq_ok_iff.mpr ⟨read, hfeed, hfeed'⟩, hread.trans hs'⟩

end Scanner

theorem increasing_of_tokenize {expression : String} {t : Tokenization}
    (h : tokenize table expression = .ok t) : t.implicit.Pairwise (· < ·) :=
  (multiplied_of_tokenize h).increasing

section Groups

variable {texts : List String} {first : Tokenization} {rest : List Tokenization}

/-- Groups side by side are read as their tokens between brackets, with a multiplication in front of
each but the first. -/
theorem tokenize_eq_grouped (h : List.Forall₂ (AcceptedAs table) texts (first :: rest)) :
    tokenize table (String.join (texts.map fun a => "(" ++ a ++ ")")) =
      .ok (first.grouped ++ .multiplied rest) := by
  cases h with
  | cons hgroup hrest =>
    -- the first group is read from the start, and the others behind it
    obtain ⟨read, hfeed, hread⟩ := Scanner.exists_feed_grouped (s := .fresh) hgroup
      (by simp [Scanner.fresh]) (Int.le_refl 0)
    rw [if_neg (by simp [Scanner.fresh, Pending.endsOperand]), Tokenization.empty_append] at hread
    obtain ⟨s', hfeed', hs'⟩ :=
      Scanner.exists_feed_multiplied hrest hread.ended (Int.le_of_eq hread.depth.symm)
    have hall := hread.trans hs'
    rw [tokenize_of_ended ?_ hall.ended hall.depth, hall.drafted, Scanner.drafted_fresh,
      Tokenization.empty_append]
    have htext := Scanner.feed_append_eq_ok_iff.mpr ⟨read, hfeed, hfeed'⟩
    simpa [List.flatMap_map] using htext

/-- **Products of groups.** Accepted expressions with tokens, each in brackets and one behind the
other, are read to their tokens in brackets with a multiplication between neighbours. The inserted
tokens are, in increasing order, these multiplications, each in front of the left bracket of its
group, and those of the expressions, counted from the first token behind the left bracket; and each
group stands where it is said to start. -/
theorem tokenize_groups (h : List.Forall₂ (AcceptedAs table) texts (first :: rest)) :
    ∃ t, tokenize table (String.join (texts.map fun a => "(" ++ a ++ ")")) = .ok t ∧
      t.tokens = [.bracket .left] ++ first.tokens ++ [.bracket .right] ++
        rest.flatMap (fun u =>
          [.operator .multiplication, .bracket .left] ++ u.tokens ++ [.bracket .right]) ∧
      t.implicit.Pairwise (· < ·) ∧
      (∀ i, i ∈ t.implicit ↔
        (∃ k, 0 < k ∧ k < (first :: rest).length ∧
          i + 1 = Tokenization.groupStart (first :: rest) k) ∨
        ∃ k u, (first :: rest)[k]? = some u ∧
          ∃ j ∈ u.implicit, i = Tokenization.groupStart (first :: rest) k + 1 + j) ∧
      ∀ k u, (first :: rest)[k]? = some u →
        [.bracket .left] ++ u.tokens ++ [.bracket .right] <+:
          t.tokens.drop (Tokenization.groupStart (first :: rest) k) := by
  have hread := tokenize_eq_grouped h
  refine ⟨_, hread, ?_, increasing_of_tokenize hread, ?_, ?_⟩
  · rw [Tokenization.tokens_append, Tokenization.tokens_grouped, Tokenization.tokens_multiplied]
  · exact Tokenization.mem_implicit_groups first rest
  · intro k u hu
    exact Tokenization.grouped_prefix_drop_groups hu

/-- In `(2)(-3 (4))(5!)` the groups are multiplied at 3 and 12, and a product in a group at 7. -/
theorem tokenize_groups_three :
    ∃ t, tokenize .standard "(2)(-3 (4))(5!)" = .ok t ∧
      t.tokens = [.bracket .left, .number "2", .bracket .right, .operator .multiplication,
        .bracket .left, .operator .minus, .number "3", .operator .multiplication, .bracket .left,
        .number "4", .bracket .right, .bracket .right, .operator .multiplication, .bracket .left,
        .number "5", .operator .factorial, .bracket .right] ∧
      3 ∈ t.implicit ∧ 7 ∈ t.implicit ∧ 12 ∈ t.implicit := by
  have htext : String.join (["2", "-3 (4)", "5!"].map fun a => "(" ++ a ++ ")") =
      "(2)(-3 (4))(5!)" := by
    decide
  have hfirst : AcceptedAs .standard "2" ⟨[.number "2"], []⟩ := ⟨by decide +kernel, by simp⟩
  have hsecond : AcceptedAs .standard "-3 (4)" ⟨[.operator .minus, .number "3",
      .operator .multiplication, .bracket .left, .number "4", .bracket .right], [2]⟩ :=
    ⟨by decide +kernel, by simp⟩
  have hthird : AcceptedAs .standard "5!" ⟨[.number "5", .operator .factorial], []⟩ :=
    ⟨by decide +kernel, by simp⟩
  obtain ⟨t, hread, htokens, -, himplicit, -⟩ :=
    tokenize_groups (.cons hfirst (.cons hsecond (.cons hthird .nil)))
  rw [htext] at hread
  refine ⟨t, hread, htokens, ?_, ?_, ?_⟩
  · exact (himplicit 3).mpr (.inl ⟨1, by decide, by decide, rfl⟩)
  · exact (himplicit 7).mpr (.inr ⟨1, _, rfl, 2, List.mem_singleton_self 2, rfl⟩)
  · exact (himplicit 12).mpr (.inl ⟨2, by decide, by decide, rfl⟩)

end Groups

end ExprLex
