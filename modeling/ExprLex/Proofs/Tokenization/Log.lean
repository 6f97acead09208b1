import ExprLex.Proofs.Scanner.Notices
import ExprLex.Proofs.Scanner.Reflection
import ExprLex.Proofs.Tokenization.Juxtaposition
import Mathlib.Algebra.GroupWithZero.Nat

/-!
# The Log of an Expression

The log tells the positions of characters at which a multiplication was inserted, and the result
tells the indices of inserted tokens. A position marks an index if the factor behind the inserted
token begins with the character there, and the visible text in front of it is as long as the tokens
that were written before. Reading keeps every mark, whatever blanks and digits come later, and makes
one with each token that it inserts. So the log of an expression can be read off its result.
-/

namespace ExprLex

/-! ## The length of what was written -/

namespace Tokenization

/-- The tokens before an index. -/
def before (t : Tokenization) (i : Nat) : Tokenization :=
  ⟨t.tokens.take i, t.implicit⟩

/-- The length of the symbols of all tokens that were written. -/
def width (t : Tokenization) : Nat :=
  (t.explicit.map fun token => token.symbol.length).sum

variable {tokens : List Token} {implicit implicit' : List Nat}

/-- Only indices of tokens matter to what was written. -/
theorem explicit_congr (h : ∀ i < tokens.length, i ∈ implicit ↔ i ∈ implicit') :
    explicit ⟨tokens, implicit⟩ = explicit ⟨tokens, implicit'⟩ := by
  rw [explicit, explicit, List.filter_congr]
  intro entry hentry
  simp [h entry.2 (List.snd_lt_of_mem_zipIdx hentry)]

theorem width_append_token (h : ∀ i ∈ implicit, i < tokens.length) (token : Token) :
    width ⟨tokens ++ [token], implicit⟩ = width ⟨tokens, implicit⟩ + token.symbol.length := by
  simp [width, explicit_append_token h]

theorem width_inserted (h : ∀ i ∈ implicit, i < tokens.length) (product token : Token) :
    width ⟨tokens ++ [product] ++ [token], implicit ++ [tokens.length]⟩ =
      width ⟨tokens, implicit⟩ + token.symbol.length := by
  rw [width, ← map_fst_placed, Multiplied.placed_inserted h, List.map_append, map_fst_placed]
  simp [width]

end Tokenization

/-! ## Marks -/

/-- A position of a text and the index of an inserted token belong together. -/
structure Marks (table : OperatorTable) (text : List Char) (t : Tokenization) (p i : Nat) :
    Prop where
  /-- The token behind the inserted one begins with the character at the position. -/
  factor : ∃ c token, text[p]? = some c ∧ t.tokens[i + 1]? = some token ∧
    token.symbol.toList.head? = some c
  /-- As much is visible in front of the position as was written before the index. -/
  before : (table.visible (text.take p)).length = (t.before i).width

section Marks

variable {table : OperatorTable} {text text' : List Char} {t t' : Tokenization} {p i : Nat}
  {tokens : List Token} {implicit : List Nat}

theorem Marks.lt_length (h : Marks table text t p i) : p < text.length := by
  obtain ⟨c, token, hc, -, -⟩ := h.factor
  exact (List.getElem?_eq_some_iff.mp hc).1

theorem Marks.succ_lt_length (h : Marks table text t p i) : i + 1 < t.tokens.length := by
  obtain ⟨c, token, -, htoken, -⟩ := h.factor
  exact (List.getElem?_eq_some_iff.mp htoken).1

private theorem prefix_getElem? {α : Type} {xs ys : List α} {a : α} {i : Nat} (h : xs <+: ys)
    (ha : xs[i]? = some a) : ys[i]? = some a := by
  obtain ⟨rest, rfl⟩ := h
  rw [List.getElem?_append_left (List.getElem?_eq_some_iff.mp ha).1, ha]

private theorem prefix_take {α : Type} {xs ys : List α} {i : Nat} (h : xs <+: ys)
    (hi : i ≤ xs.length) : ys.take i = xs.take i := by
  obtain ⟨rest, rfl⟩ := h
  exact List.take_append_of_le_length hi

/-- What comes later does not matter for a mark. -/
theorem Marks.mono (h : Marks table text t p i) (htext : text <+: text')
    (htokens : t.tokens <+: t'.tokens)
    (himplicit : ∀ j < t.tokens.length, j ∈ t'.implicit ↔ j ∈ t.implicit) :
    Marks table text' t' p i where
  factor := by
    obtain ⟨c, token, hc, htoken, hfirst⟩ := h.factor
    exact ⟨c, token, prefix_getElem? htext hc, prefix_getElem? htokens htoken, hfirst⟩
  before := by
    have hi : i < t.tokens.length := Nat.lt_of_succ_lt h.succ_lt_length
    rw [prefix_take htext h.lt_length.le, h.before, Tokenization.before, Tokenization.before,
      prefix_take htokens hi.le, Tokenization.width, Tokenization.width,
      Tokenization.explicit_congr]
    intro j hj
    rw [List.length_take] at hj
    exact (himplicit j (by omega)).symm

/-- That the last token is a number that becomes longer does not matter for a mark. -/
theorem Marks.lengthen {symbol : String}
    (h : Marks table text ⟨tokens ++ [.number symbol], implicit⟩ p i) (htext : text <+: text')
    (more : String) :
    Marks table text' ⟨tokens ++ [.number (symbol ++ more)], implicit⟩ p i := by
  have hi : i + 1 ≤ tokens.length := by
    have hlt := h.succ_lt_length
    simp only [List.length_append, List.length_singleton] at hlt
    omega
  refine ⟨?_, ?_⟩
  · obtain ⟨c, token, hc, htoken, hfirst⟩ := h.factor
    rcases hi.lt_or_eq with hlt | hlast
    · -- the factor stands before the number and is what it was
      have hbefore := (List.getElem?_append_left hlt).symm.trans htoken
      refine ⟨c, token, prefix_getElem? htext hc, ?_, hfirst⟩
      exact (List.getElem?_append_left hlt).trans hbefore
    · -- the factor is the number itself, and what it begins with stays
      rw [hlast, List.getElem?_concat_length, Option.some.injEq] at htoken
      subst htoken
      refine ⟨c, _, prefix_getElem? htext hc, hlast ▸ List.getElem?_concat_length, ?_⟩
      simp only [Token.symbol] at hfirst ⊢
      rw [String.toList_append, List.head?_append, hfirst]
      rfl
  · have hbefore := h.before
    rw [Tokenization.before, List.take_append_of_le_length (Nat.le_of_succ_le hi)] at hbefore
    rw [prefix_take htext h.lt_length.le, hbefore, Tokenization.before,
      List.take_append_of_le_length (Nat.le_of_succ_le hi)]

end Marks

/-! ## Texts and tokens in step -/

/-- The visible text is what was written, and the inserted tokens were told at positions of it. -/
structure Narrated (table : OperatorTable) (text : List Char) (t : Tokenization)
    (positions : List Nat) : Prop where
  measured : (table.visible text).length = t.width
  marked : List.Forall₂ (Marks table text t) positions t.implicit
  increasing : positions.Pairwise (· < ·)

section Narrated

variable {table : OperatorTable} {text : List Char} {c : Char} {t : Tokenization}
  {tokens : List Token} {implicit positions : List Nat} {token : Token}

theorem narrated_nil : Narrated table [] ⟨[], []⟩ [] :=
  ⟨rfl, .nil, .nil⟩

theorem Narrated.lt_length (h : Narrated table text t positions) :
    ∀ p ∈ positions, p < text.length :=
  ((List.forall₂_and_left _ _).mp (h.marked.imp fun _ _ hmark => ⟨hmark.lt_length, hmark⟩)).1

/-- The last token is one that was written. -/
theorem Narrated.succ_lt_length (h : Narrated table text t positions) :
    ∀ i ∈ t.implicit, i + 1 < t.tokens.length := by
  have hlisted : List.Forall₂ (fun i p => i + 1 < t.tokens.length ∧ Marks table text t p i)
      t.implicit positions :=
    h.marked.flip.imp fun _ _ hmark => ⟨hmark.succ_lt_length, hmark⟩
  exact ((List.forall₂_and_left _ _).mp hlisted).1

theorem Narrated.implicit_lt_length (h : Narrated table text t positions) :
    ∀ i ∈ t.implicit, i < t.tokens.length :=
  fun i hi => Nat.lt_of_succ_lt (h.succ_lt_length i hi)

/-- A character that is passed over changes nothing. -/
theorem Narrated.skipped (h : Narrated table text t positions) (hc : table.skips c = true) :
    Narrated table (text ++ [c]) t positions where
  measured := by rw [Scanner.visible_append_of_skips hc, h.measured]
  marked := h.marked.imp fun _ _ hmark =>
    hmark.mono (List.prefix_append _ _) (List.prefix_refl _) fun _ _ => Iff.rfl
  increasing := h.increasing

/-- A number becomes longer by a character. -/
theorem Narrated.lengthened {symbol : String}
    (h : Narrated table text ⟨tokens ++ [.number symbol], implicit⟩ positions)
    (hc : table.skips c = false) :
    Narrated table (text ++ [c]) ⟨tokens ++ [.number (symbol ++ String.singleton c)], implicit⟩
      positions where
  measured := by
    have hlisted : ∀ i ∈ implicit, i < tokens.length := by
      intro i hi
      have hlt := h.succ_lt_length i hi
      simp only [List.length_append, List.length_singleton] at hlt
      omega
    have hmeasured := h.measured
    rw [Tokenization.width_append_token hlisted] at hmeasured
    rw [Scanner.visible_append_of_not_skips hc, List.length_append, hmeasured,
      Tokenization.width_append_token hlisted, Nat.add_assoc]
    simp [Token.symbol]
  marked := h.marked.imp fun _ _ hmark => hmark.lengthen (List.prefix_append _ _) _
  increasing := h.increasing

/-- A token is written with a character. -/
theorem Narrated.written (h : Narrated table text ⟨tokens, implicit⟩ positions)
    (hc : table.skips c = false) (htoken : token.symbol.length = 1) :
    Narrated table (text ++ [c]) ⟨tokens ++ [token], implicit⟩ positions where
  measured := by
    rw [Scanner.visible_append_of_not_skips hc, List.length_append, h.measured,
      Tokenization.width_append_token h.implicit_lt_length, htoken]
    rfl
  marked := h.marked.imp fun _ _ hmark =>
    hmark.mono (List.prefix_append _ _) (List.prefix_append _ _) fun _ _ => Iff.rfl
  increasing := h.increasing

/-- A token is inserted at a position, and the factor behind it begins there. -/
theorem Narrated.inserted (h : Narrated table text ⟨tokens, implicit⟩ positions)
    (hc : table.skips c = false) (htoken : token.symbol = String.singleton c) (product : Token) :
    Narrated table (text ++ [c])
      ⟨tokens ++ [product] ++ [token], implicit ++ [tokens.length]⟩
      (positions ++ [text.length]) where
  measured := by
    rw [Scanner.visible_append_of_not_skips hc, List.length_append, h.measured,
      Tokenization.width_inserted h.implicit_lt_length, htoken, String.length_singleton]
    rfl
  marked := by
    -- the new index lies behind all earlier tokens
    have hbehind : ∀ j < tokens.length, j ∈ implicit ++ [tokens.length] ↔ j ∈ implicit := by
      intro j hj
      simp [hj.ne]
    apply List.rel_append
    · refine h.marked.imp fun _ _ hmark => hmark.mono (List.prefix_append _ _) ?_ hbehind
      rw [List.append_assoc]
      exact List.prefix_append _ _
    · refine .cons ⟨⟨c, token, ?_, ?_, ?_⟩, ?_⟩ .nil
      · exact List.getElem?_concat_length
      · rw [List.getElem?_append_right (by simp)]
        simp
      · simp [htoken]
      · rw [List.take_left, h.measured, Tokenization.before, Tokenization.width,
          Tokenization.width, List.append_assoc, List.take_left,
          Tokenization.explicit_congr hbehind]
  increasing := by
    refine List.pairwise_append.mpr ⟨h.increasing, List.pairwise_singleton _ _, ?_⟩
    intro p hp q hq
    rw [List.mem_singleton.mp hq]
    exact h.lt_length p hp

end Narrated

/-! ## What a scanner tells -/

namespace Scanner

variable {table : OperatorTable} {c : Char} {s s' t failed : Scanner} {p : Pending}
  {token : Token} {read cs : List Char} {earlier : List Notice} {positions : List Nat}
  {e : SyntaxError}

/-- Behind what it told earlier, a scanner has told at which positions it inserted something. -/
structure Tells (table : OperatorTable) (earlier : List Notice) (read : List Char) (s : Scanner)
    (positions : List Nat) : Prop where
  reflects : s.Reflects table read
  notices : s.notices.toList = earlier ++ positions.map fun p : Nat => Notice.inserted p
  narrated : Narrated table read ⟨s.draft table, s.implicit.toList⟩ positions

/-- At the start, the log has only the expression. -/
theorem tells_opening (expression : String) :
    (opening expression).Tells table [.started expression] [] [] :=
  ⟨reflects_opening expression, rfl, narrated_nil⟩

/-- A lexeme begins as a token of one character. -/
theorem length_symbol_of_draftToken? (h : draftToken? table (String.singleton c) p = some token) :
    token.symbol.length = 1 := by
  cases p with
  | empty => cases h
  | integer | decimal | lonePoint => cases h; exact String.length_singleton
  | leftBracket | rightBracket => cases h; rfl
  | binary | sign | postfixOp =>
    obtain ⟨op, -, rfl⟩ := Option.map_eq_some_iff.mp h
    exact String.length_singleton

/-- A factor is written with the character that begins it. -/
theorem Begins.symbol_of_startsFactor (h : Begins table c s p) (hp : p.startsFactor = true)
    (htoken : draftToken? table (String.singleton c) p = some token) :
    token.symbol = String.singleton c := by
  cases h with
  | digit | point => cases htoken; rfl
  | left hc => subst hc; cases htoken; rfl
  | right | sign | binary | postfixOp => cases hp

/-- A number that becomes longer is not told. -/
theorem Tells.extend (hs : s.Tells table earlier read positions) (h : Extends c s.pending p) :
    (s.extend (String.singleton c) p).advance.Tells table earlier (read ++ [c]) positions where
  reflects := hs.reflects.extend h
  notices := hs.notices
  narrated := by
    have hnarrated := hs.narrated
    rw [draft, draftToken?_of_isNumber h.isNumber] at hnarrated
    show Narrated table _ ⟨(s.extend (String.singleton c) p).draft table, _⟩ _
    rw [draft, pending_extend, draftToken?_of_isNumber h.isNumber_right]
    exact hnarrated.lengthened h.not_skips

/-- A lexeme that begins adds its token, behind a multiplication if it is juxtaposed. -/
theorem Begins.draft_begun (h : Begins table c s p)
    (htoken : draftToken? table (String.singleton c) p = some token) :
    (s.begun table c p).draft table = s.draft table ++
      (if s.pending.endsOperand && p.startsFactor then [.operator .multiplication] else []) ++
        [token] := by
  rw [draft, toList_tokens_begun h.ne_lonePoint, symbol_begun, pending_begun, htoken]
  rfl

/-- A lexeme that begins is told exactly if a multiplication is inserted before it. -/
theorem Tells.begun (hs : s.Tells table earlier read positions) (h : Begins table c s p) :
    ∃ positions', (s.begun table c p).advance.Tells table earlier (read ++ [c]) positions' := by
  obtain ⟨token, htoken, -⟩ := h.spells_symbol.exists_draftToken h.ne_empty
  have hnotices : (s.begun table c p).advance.notices.toList = _ := toList_notices_begun
  have hdraft : (s.begun table c p).advance.draft table = _ := h.draft_begun htoken
  have himplicit : (s.begun table c p).advance.implicit.toList = _ :=
    toList_implicit_begun h.ne_lonePoint
  cases hjuxtaposed : s.pending.endsOperand && p.startsFactor with
  | false =>
    rw [hjuxtaposed, if_neg Bool.false_ne_true, List.append_nil] at hnotices hdraft himplicit
    refine ⟨positions, hs.reflects.begun h, hnotices.trans hs.notices, ?_⟩
    rw [hdraft, himplicit]
    exact hs.narrated.written h.not_skips (length_symbol_of_draftToken? htoken)
  | true =>
    -- the multiplication is told at the character that begins the factor
    rw [hjuxtaposed, if_pos rfl] at hnotices hdraft himplicit
    have hfactor := (Bool.and_eq_true_iff.mp hjuxtaposed).2
    refine ⟨positions ++ [read.length], hs.reflects.begun h, ?_, ?_⟩
    · rw [hnotices, hs.notices, hs.reflects.position, List.map_append, List.append_assoc]
      rfl
    · rw [hdraft, himplicit]
      exact hs.narrated.inserted h.not_skips (h.symbol_of_startsFactor hfactor htoken) _

/-- Each move tells of the multiplication that it inserts, and of nothing else. -/
theorem Tells.move (hs : s.Tells table earlier read positions) (h : Move table c s s') :
    ∃ positions', s'.advance.Tells table earlier (read ++ [c]) positions' := by
  cases h with
  | skipped hskip =>
    exact ⟨positions, hs.reflects.skip hskip, hs.notices, hs.narrated.skipped hskip⟩
  | extended hext => exact ⟨positions, hs.extend hext⟩
  | begun hbegin => exact hs.begun hbegin

/-- **Every state that is reached has told what it inserted.** -/
theorem exists_tells_of_feed (hs : s.Tells table earlier [] positions)
    (h : feed table cs s = .ok () s') : ∃ positions', s'.Tells table earlier cs positions' := by
  refine invariant_of_moves (fun read s => ∃ positions, s.Tells table earlier read positions) [] ?_
    ⟨positions, hs⟩ h
  rintro read s s' c ⟨positions, hs⟩ hmove
  exact hs.move hmove

/-- The state in which an expression is refused has told what it inserted until then. -/
theorem exists_tells_of_rejects (hs : s.Tells table earlier [] positions)
    (h : Rejects table cs s e failed) :
    ∃ read positions', read <+: cs ∧ failed.Tells table earlier read positions' := by
  rcases h with hfail | ⟨hfeed, -⟩
  · obtain ⟨before, c, after, rfl, hfeed, -⟩ := feed_eq_error_iff.mp hfail
    obtain ⟨positions', htells⟩ := exists_tells_of_feed hs hfeed
    exact ⟨before, positions', List.prefix_append _ _, htells⟩
  · obtain ⟨positions', htells⟩ := exists_tells_of_feed hs hfeed
    exact ⟨cs, positions', List.prefix_refl _, htells⟩

/-! ## Scanners that have worked before -/

/-- The log of a scanner. -/
def log (s : Scanner) : List LogRecord :=
  s.notices.toList.map Notice.record

/-- The state in which the reading of an expression leaves a scanner. -/
def afterReading (table : OperatorTable) (expression : String) (s : Scanner) : Scanner :=
  match readExpression table expression s with
  | .ok _ s' | .error _ s' => s'

/-- Two states are alike, and the second has told something before. -/
structure Repeats (earlier : List Notice) (s t : Scanner) : Prop where
  alike : s.Alike t
  notices : t.notices.toList = earlier ++ s.notices.toList

/-- A reset scanner starts like a new one, behind what it told before. -/
theorem repeats_opening (t : Scanner) (expression : String) :
    Repeats t.notices.toList (opening expression) (t.reset.note (.started expression)) where
  alike := (fresh.alike_reset_opening expression).symm.trans (fresh.alike_reset_note t _)
  notices := by simp [note, reset, opening, fresh]

theorem Repeats.note (hs : Repeats earlier s t) (notice : Notice) :
    Repeats earlier (s.note notice) (t.note notice) where
  alike := (alike_note s notice).symm.trans (hs.alike.trans (alike_note t notice))
  notices := by simp [Scanner.note, hs.notices]

theorem Repeats.commit (hs : Repeats earlier s t) :
    Repeats earlier (s.commit table) (t.commit table) where
  alike := hs.alike.commit
  notices := by rw [notices_commit, notices_commit, hs.notices]

/-- A move tells the same behind what was told before. -/
theorem Repeats.move (hs : Repeats earlier s t) (h : Move table c s s') :
    ∃ t', Move table c t t' ∧ Repeats earlier s'.advance t'.advance := by
  cases h with
  | skipped hskip => exact ⟨t, .skipped hskip, hs.alike.advance, hs.notices⟩
  | extended hext =>
    exact ⟨_, .extended (hs.alike.agree.pending ▸ hext), (hs.alike.extend _ _).advance, hs.notices⟩
  | begun hbegin =>
    refine ⟨_, .begun (hbegin.of_agree hs.alike.agree), ?_, ?_⟩
    · exact (hs.alike.begun hbegin.ne_lonePoint).advance
    · show (t.begun table c _).notices.toList = earlier ++ (s.begun table c _).notices.toList
      rw [toList_notices_begun, toList_notices_begun, hs.notices, hs.alike.agree.pending,
        hs.alike.position, List.append_assoc]

/-- A text that can be read tells the same behind what was told before. -/
theorem feed_of_repeats (hs : Repeats earlier s t) (h : feed table cs s = .ok () s') :
    ∃ t', feed table cs t = .ok () t' ∧ Repeats earlier s' t' :=
  simulation_of_moves (Repeats earlier) Repeats.move hs h

/-- A text that is rejected tells the same behind what was told before. -/
theorem Rejects.of_repeats (h : Rejects table cs s e s') (hs : Repeats earlier s t) :
    ∃ t', Rejects table cs t e t' ∧ Repeats earlier s' t' :=
  rejects_of_simulation (Repeats earlier) Repeats.move Repeats.alike hs h

/-- Reading an expression tells the same in any state as at the start. -/
theorem repeats_afterReading (table : OperatorTable) (expression : String) (t : Scanner) :
    Repeats t.notices.toList (fresh.afterReading table expression)
      (t.afterReading table expression) := by
  have hopening := t.repeats_opening expression
  rcases completes_or_rejects table expression.toList (opening expression) with
    ⟨read, hfeed, hcomplete⟩ | ⟨e, failed, hrejects⟩
  · obtain ⟨read', hfeed', hread⟩ := feed_of_repeats hopening hfeed
    have hcomplete' := hcomplete.of_agree hread.alike.agree
    rw [afterReading, afterReading, readExpression_eq_ok_iff.mpr ⟨read, hfeed, hcomplete, rfl, rfl⟩,
      readExpression_eq_ok_iff.mpr ⟨read', hfeed', hcomplete', rfl, rfl⟩,
      ← hread.commit.alike.agree.tokens, ← hread.commit.alike.agree.implicit]
    exact hread.commit.note _
  · obtain ⟨failed', hrejects', hfailed⟩ := hrejects.of_repeats hopening
    rw [afterReading, afterReading, readExpression_eq_error_iff.mpr ⟨failed, hrejects, rfl⟩,
      readExpression_eq_error_iff.mpr ⟨failed', hrejects', rfl⟩]
    exact ⟨(hfailed.note _).alike.cleared, (hfailed.note _).notices⟩

end Scanner

/-! ## The log and the result -/

section Transcript

variable {table : OperatorTable} {expression : String} {s : Scanner} {positions : List Nat}

/-- The log of an expression: that reading began, at which positions something was inserted, and
how it ended. -/
def transcript (expression : String) (positions : List Nat) (outcome : String) : List LogRecord :=
  (["Tokenizing " ++ Text.quoted expression] ++
    positions.map (fun p => s!"Implicit '*' inserted before index {p}") ++ [outcome]).map
      fun message => ⟨.debug, message⟩

theorem tokenizeLog_eq_log (table : OperatorTable) (expression : String) :
    tokenizeLog table expression = (Scanner.fresh.afterReading table expression).log := by
  unfold tokenizeLog Scanner.afterReading
  cases Scanner.readExpression table expression Scanner.fresh <;> rfl

/-- The log of a reading is a transcript with the outcome at its end. -/
theorem Scanner.log_note (h : s.notices.toList =
      [.started expression] ++ positions.map fun p : Nat => Notice.inserted p) (outcome : Notice) :
    (s.note outcome).log = transcript expression positions outcome.message := by
  rw [log, note, Array.toList_push, h, transcript]
  simp only [List.map_append, List.map_map]
  rfl

/-- The transcript of an accepted expression ends with the counts. -/
theorem tokenizeLog_of_complete
    (hfeed : Scanner.feed table expression.toList (.opening expression) = .ok () s)
    (hcomplete : s.Complete)
    (htells : s.Tells table [.started expression] expression.toList positions) :
    tokenizeLog table expression = transcript expression positions
      s!"Produced {(s.draft table).length} tokens ({s.implicit.toList.length} implicit '*')" := by
  have hnotices := htells.notices
  rw [← Scanner.notices_commit table s] at hnotices
  rw [tokenizeLog_eq_log, Scanner.afterReading,
    Scanner.readExpression_eq_ok_iff.mpr ⟨s, hfeed, hcomplete, rfl, rfl⟩,
    ← Scanner.toList_tokens_commit_eq_draft hcomplete.ne_lonePoint, Array.length_toList,
    ← Scanner.implicit_commit table s, Array.length_toList]
  exact Scanner.log_note hnotices _

/-- The transcript of a rejected expression ends with the error. -/
theorem tokenizeLog_of_rejects {e : SyntaxError} {read : List Char}
    (hrejects : Scanner.Rejects table expression.toList (.opening expression) e s)
    (htells : s.Tells table [.started expression] read positions) :
    tokenizeLog table expression = transcript expression positions
      ("Rejected " ++ Text.quoted expression ++ ": " ++ e.message) := by
  rw [tokenizeLog_eq_log, Scanner.afterReading,
    Scanner.readExpression_eq_error_iff.mpr ⟨s, hrejects, rfl⟩]
  exact Scanner.log_note htells.notices (.rejected expression e)

/-- **The log agrees with the result.** Whatever a scanner has done before, it adds the same records
for an expression: one for the start, one for each inserted multiplication, and one that tells the
numbers of tokens and of inserted ones or else the error. The positions in the log increase, and
each marks the index of its multiplication among the tokens. If the expression is refused, these are
the multiplications that were inserted until then. -/
theorem tokenizeLog_eq_transcript (table : OperatorTable) (expression : String) :
    (∀ s : Scanner, (s.afterReading table expression).log = s.log ++ tokenizeLog table expression) ∧
      ∃ positions : List Nat, positions.Pairwise (· < ·) ∧
        match tokenize table expression with
        | .ok t =>
          tokenizeLog table expression = transcript expression positions
              s!"Produced {t.tokens.length} tokens ({t.implicit.length} implicit '*')" ∧
            positions.length = t.implicit.length ∧
            List.Forall₂ (Marks table expression.toList t) positions t.implicit
        | .error e =>
          tokenizeLog table expression = transcript expression positions
              ("Rejected " ++ Text.quoted expression ++ ": " ++ e.message) ∧
            ∃ failed, Scanner.Rejects table expression.toList (.opening expression) e failed ∧
              positions.length = failed.implicit.toList.length ∧
              List.Forall₂
                (Marks table expression.toList ⟨failed.draft table, failed.implicit.toList⟩)
                positions failed.implicit.toList := by
  constructor
  · intro s
    rw [tokenizeLog_eq_log, Scanner.log, (Scanner.repeats_afterReading table expression s).notices,
      List.map_append]
    rfl
  rcases Scanner.completes_or_rejects table expression.toList (.opening expression) with
    ⟨s, hfeed, hcomplete⟩ | ⟨e, failed, hrejects⟩
  · obtain ⟨positions, htells⟩ :=
      Scanner.exists_tells_of_feed (Scanner.tells_opening expression) hfeed
    have hmarked := htells.narrated.marked
    refine ⟨positions, htells.narrated.increasing, ?_⟩
    rw [tokenize_eq_ok_iff_draft.mpr ⟨s, hfeed, hcomplete, rfl⟩]
    exact ⟨tokenizeLog_of_complete hfeed hcomplete htells, hmarked.length_eq, hmarked⟩
  · obtain ⟨read, positions, hread, htells⟩ :=
      Scanner.exists_tells_of_rejects (Scanner.tells_opening expression) hrejects
    have hmarked := htells.narrated.marked
    refine ⟨positions, htells.narrated.increasing, ?_⟩
    rw [tokenize_eq_error_iff.mpr (exists_or.mp ⟨failed, hrejects⟩)]
    refine ⟨tokenizeLog_of_rejects hrejects htells, failed, hrejects, hmarked.length_eq, ?_⟩
    -- the text that was read is a prefix of the expression
    exact hmarked.imp fun _ _ hmark =>
      hmark.mono hread (List.prefix_refl _) fun _ _ => Iff.rfl

example : tokenizeLog .standard "2 (3)4!" =
    transcript "2 (3)4!" [2, 5] "Produced 8 tokens (2 implicit '*')" := by
  decide +kernel

end Transcript

end ExprLex
