import ExprLex.Proofs.Token.Stage

/-!
# Nesting of Token Streams

How deep each token of a stream stands, and which brackets belong together. The depth behind a
stream is the depth before it plus its balance. A left bracket and a right one are partners if
what stands between them is balanced, which is said without depths: a balanced stream is built
from tokens that are no brackets and from pairs of brackets around balanced streams. Where the
depth falls below the one at the start, the bracket that closes the last level is found
(`exists_closing`), so that in a stream without unmatched brackets every left bracket has exactly
one partner.
-/

namespace ExprLex

namespace Bracket

/-- By how much a bracket changes the depth. -/
def depthChange : Bracket → Int
  | .left => 1
  | .right => -1

/-- The depth at which a bracket is shown when the depth behind it is given. The brackets of a
level are both shown at the depth inside it. -/
def shownAt (depth : Int) : Bracket → Int
  | .left => depth
  | .right => depth + 1

end Bracket

namespace Token

/-- The bracket that a token is, if it is one. -/
def bracket? : Token → Option Bracket
  | .bracket side => some side
  | _ => none

theorem eq_bracket_of_bracket? {token : Token} {side : Bracket} (h : token.bracket? = some side) :
    token = .bracket side := by
  cases token with
  | bracket side => cases h; rfl
  | _ => cases h

/-- By how much a token changes the depth. -/
def depthChange : Token → Int
  | .bracket side => side.depthChange
  | _ => 0

/-- The depth at which a token is shown when the depth before it is given. -/
def shownFrom (depth : Int) : Token → Int
  | .bracket .left => depth + 1
  | _ => depth

@[simp] theorem depthChange_left : (bracket .left).depthChange = 1 := rfl

@[simp] theorem depthChange_right : (bracket .right).depthChange = -1 := rfl

variable {token : Token} {depth : Int}

theorem depthChange_of_bracket?_eq_none (h : token.bracket? = none) : token.depthChange = 0 := by
  cases token with
  | bracket side => cases h
  | _ => rfl

theorem shownFrom_of_bracket?_eq_none (h : token.bracket? = none) :
    token.shownFrom depth = depth := by
  cases token with
  | bracket side => cases h
  | _ => rfl

/-- Seen from before a bracket and from behind it, it is shown at the same depth. -/
theorem shownFrom_bracket (side : Bracket) :
    (bracket side).shownFrom depth = side.shownAt (depth + side.depthChange) := by
  cases side with
  | left => rfl
  | right => exact (Int.sub_add_cancel depth 1).symm

theorem le_shownFrom (token : Token) (depth : Int) : depth ≤ token.shownFrom depth := by
  unfold shownFrom
  split
  · exact Int.le_add_one (Int.le_refl depth)
  · exact Int.le_refl depth

end Token

namespace Nesting

/-! ## The balance of a stream -/

/-- By how much a stream changes the depth. -/
def balance : List Token → Int
  | [] => 0
  | token :: rest => token.depthChange + balance rest

variable {tokens : List Token} {token : Token} {depth : Int}

@[simp] theorem balance_nil : balance [] = 0 := rfl

@[simp] theorem balance_cons (token : Token) (rest : List Token) :
    balance (token :: rest) = token.depthChange + balance rest := rfl

@[simp] theorem balance_append (xs ys : List Token) :
    balance (xs ++ ys) = balance xs + balance ys := by
  induction xs with
  | nil => exact (Int.zero_add _).symm
  | cons token rest ih => rw [List.cons_append, balance_cons, balance_cons, ih, Int.add_assoc]

/-- The balance up to a token is that before it and its own change. -/
theorem balance_take_succ {i : Nat} (h : tokens[i]? = some token) :
    balance (tokens.take (i + 1)) = balance (tokens.take i) + token.depthChange := by
  rw [List.take_add_one, h, balance_append, Option.toList_some, balance_cons, balance_nil,
    Int.add_zero]

theorem balance_take_add (tokens : List Token) (i n : Nat) :
    balance (tokens.take (i + n)) =
      balance (tokens.take i) + balance ((tokens.drop i).take n) := by
  rw [List.take_add, balance_append]

/-- Inside a stream the depth never falls below the one before it. -/
def StaysAbove (tokens : List Token) : Prop :=
  ∀ n, 0 ≤ balance (tokens.take n)

/-- The stage counts the same depth as the balance. -/
theorem depth_of_next? {stage next : Stage} (h : stage.next? token = some next) :
    (next.depth : Int) = stage.depth + token.depthChange := by
  obtain ⟨ended, depth⟩ := stage
  cases token with
  | number symbol =>
    rw [Stage.next?_number, Option.ite_none_left_eq_some] at h
    cases h.2
    exact (Int.add_zero _).symm
  | operator op =>
    rw [Stage.next?_operator, Option.ite_none_left_eq_some] at h
    cases h.2
    exact (Int.add_zero _).symm
  | bracket side =>
    cases side with
    | left =>
      rw [Stage.next?_left, Option.ite_none_left_eq_some] at h
      cases h.2
      rfl
    | right =>
      -- something was open, so that the depth can fall
      rw [Stage.next?_right, Option.ite_none_right_eq_some] at h
      obtain ⟨⟨-, hopen⟩, hnext⟩ := h
      cases hnext
      show ((depth - 1 : Nat) : Int) = depth + -1
      omega

/-- The depth of a stage is told by the balance. -/
theorem depth_of_after? {stage last : Stage} (h : stage.after? tokens = some last) :
    (last.depth : Int) = stage.depth + balance tokens := by
  induction tokens generalizing stage with
  | nil =>
    rw [Stage.after?_nil, Option.some.injEq] at h
    rw [← h, balance_nil, Int.add_zero]
  | cons token rest ih =>
    rw [Stage.after?_cons] at h
    obtain ⟨next, hnext, hrest⟩ := Option.bind_eq_some_iff.mp h
    rw [ih hrest, depth_of_next? hnext, balance_cons, Int.add_assoc]

/-- A stream that gets through all stages closes no level that it did not open. -/
theorem staysAbove_of_after? {last : Stage} (h : Stage.start.after? tokens = some last) :
    StaysAbove tokens := by
  intro n
  rw [← List.take_append_drop n tokens, Stage.after?_append] at h
  obtain ⟨stage, hstage, -⟩ := Option.bind_eq_some_iff.mp h
  have hdepth : (stage.depth : Int) = 0 + balance (tokens.take n) := depth_of_after? hstage
  omega

/-! ## The depths that are shown -/

theorem bracketDepths_cons (depth : Int) (token : Token) (rest : List Token) :
    bracketDepths depth (token :: rest) =
      token.shownFrom depth :: bracketDepths (depth + token.depthChange) rest := by
  cases token with
  | bracket side =>
    cases side with
    | left | right => rfl
  | _ =>
    show depth :: bracketDepths depth rest = depth :: bracketDepths (depth + 0) rest
    rw [Int.add_zero]

@[simp] theorem length_bracketDepths (depth : Int) (tokens : List Token) :
    (bracketDepths depth tokens).length = tokens.length := by
  induction tokens generalizing depth with
  | nil => rfl
  | cons token rest ih => rw [bracketDepths_cons, List.length_cons, List.length_cons, ih]

/-- The depths of a second part go on from the balance of the first. -/
theorem bracketDepths_append (depth : Int) (xs ys : List Token) :
    bracketDepths depth (xs ++ ys) =
      bracketDepths depth xs ++ bracketDepths (depth + balance xs) ys := by
  induction xs generalizing depth with
  | nil => simp [bracketDepths]
  | cons token rest ih =>
    rw [List.cons_append, bracketDepths_cons, bracketDepths_cons, ih, balance_cons,
      Int.add_assoc, List.cons_append]

/-- A token is shown at the depth that the tokens before it lead to. -/
theorem getElem?_bracketDepths {i : Nat} (h : tokens[i]? = some token) :
    (bracketDepths depth tokens)[i]? =
      some (token.shownFrom (depth + balance (tokens.take i))) := by
  obtain ⟨hi, rfl⟩ := List.getElem?_eq_some_iff.mp h
  have hsplit : tokens = tokens.take i ++ tokens[i] :: tokens.drop (i + 1) := by
    rw [List.getElem_cons_drop, List.take_append_drop]
  have hlength : (bracketDepths depth (tokens.take i)).length = i := by
    rw [length_bracketDepths, List.length_take_of_le (Nat.le_of_lt hi)]
  conv_lhs => rw [hsplit, bracketDepths_append, bracketDepths_cons]
  rw [List.getElem?_append_right (Nat.le_of_eq hlength), hlength, Nat.sub_self,
    List.getElem?_cons_zero]

/-- Where the depth does not fall below the one before the stream, nothing is shown below it. -/
theorem StaysAbove.le_shown {shown : Int} (h : StaysAbove tokens)
    (hmem : shown ∈ bracketDepths depth tokens) : depth ≤ shown := by
  obtain ⟨i, hi⟩ := List.mem_iff_getElem?.mp hmem
  have hlt : i < tokens.length := by
    have hbound := (List.getElem?_eq_some_iff.mp hi).1
    rwa [length_bracketDepths] at hbound
  rw [getElem?_bracketDepths (List.getElem?_eq_getElem hlt), Option.some.injEq] at hi
  have habove := h i
  have hle := tokens[i].le_shownFrom (depth + balance (tokens.take i))
  omega

/-! ## The brackets of a stream -/

/-- The brackets of a stream with the depth behind each of them, when the depth before the
stream is given. -/
def trace : Int → List Token → List (Bracket × Int)
  | _, [] => []
  | depth, token :: rest =>
    let behind := depth + token.depthChange
    (token.bracket?.map fun side => (side, behind)).toList ++ trace behind rest

/-- The brackets of a stream with the depths at which they are shown. -/
def shownBrackets (tokens : List Token) : List (Bracket × Int) :=
  (tokens.zip (bracketDepths 0 tokens)).filterMap fun (token, depth) =>
    token.bracket?.map fun side => (side, depth)

/-- The trace of a second part goes on from the balance of the first. -/
theorem trace_append (depth : Int) (xs ys : List Token) :
    trace depth (xs ++ ys) = trace depth xs ++ trace (depth + balance xs) ys := by
  induction xs generalizing depth with
  | nil => simp [trace]
  | cons token rest ih => simp [trace, ih, Int.add_assoc]

theorem trace_singleton (depth : Int) (token : Token) :
    trace depth [token] =
      (token.bracket?.map fun side => (side, depth + token.depthChange)).toList :=
  List.append_nil _

theorem length_trace (depth : Int) (tokens : List Token) :
    (trace depth tokens).length = (tokens.filterMap Token.bracket?).length := by
  induction tokens generalizing depth with
  | nil => rfl
  | cons token rest ih => cases h : token.bracket? <;> simp [trace, h, ih]

/-- The brackets in front of a place are the first ones of the stream. -/
theorem take_trace (depth : Int) (tokens : List Token) (i : Nat) :
    (trace depth tokens).take ((tokens.take i).filterMap Token.bracket?).length =
      trace depth (tokens.take i) := by
  rw [← length_trace depth]
  conv_lhs => rw [← List.take_append_drop i tokens, trace_append]
  rw [List.take_append_drop, List.take_left]

/-- The depth behind a stream is that behind its last bracket. -/
theorem getLast?_trace (depth : Int) (tokens : List Token) :
    ((trace depth tokens).getLast?.map Prod.snd).getD depth = depth + balance tokens := by
  induction tokens using List.reverseRecOn with
  | nil => exact (Int.add_zero depth).symm
  | append_singleton before token ih =>
    rw [trace_append, trace_singleton, balance_append, balance_cons, balance_nil, Int.add_zero,
      ← Int.add_assoc]
    cases h : token.bracket? with
    | none =>
      -- the token changes nothing
      rw [Token.depthChange_of_bracket?_eq_none h, Int.add_zero, Option.map_none,
        Option.toList_none, List.append_nil]
      exact ih
    | some side =>
      rw [Option.map_some, Option.toList_some, List.getLast?_concat]
      rfl

/-- The depth behind a bracket is that behind the tokens up to it. -/
theorem exists_take_of_mem_trace {entry : Bracket × Int} (h : entry ∈ trace depth tokens) :
    ∃ n, entry.2 = depth + balance (tokens.take n) := by
  induction tokens generalizing depth with
  | nil => cases h
  | cons token rest ih =>
    rcases List.mem_append.mp h with hhere | hlater
    · refine ⟨1, ?_⟩
      rw [Option.mem_toList, Option.map_eq_some_iff] at hhere
      obtain ⟨side, -, rfl⟩ := hhere
      simp
    · obtain ⟨n, hn⟩ := ih hlater
      refine ⟨n + 1, ?_⟩
      rw [hn, List.take_succ_cons, balance_cons, Int.add_assoc]

/-- Where the depth never falls below its start, no bracket is traced below it. -/
theorem StaysAbove.le_trace {entry : Bracket × Int} (h : StaysAbove tokens)
    (hmem : entry ∈ trace depth tokens) : depth ≤ entry.2 := by
  obtain ⟨n, hn⟩ := exists_take_of_mem_trace hmem
  have habove := h n
  omega

/-- What is shown at brackets is their trace, read at the side they are shown at. -/
private theorem filterMap_zip_eq_map_trace (depth : Int) (tokens : List Token) :
    ((tokens.zip (bracketDepths depth tokens)).filterMap fun (token, depth) =>
      token.bracket?.map fun side => (side, depth)) =
      (trace depth tokens).map fun (side, behind) => (side, side.shownAt behind) := by
  induction tokens generalizing depth with
  | nil => rfl
  | cons token rest ih =>
    rw [bracketDepths_cons, List.zip_cons_cons, trace, List.map_append, ← ih]
    cases token with
    | bracket side => simp [Token.bracket?, Token.depthChange, Token.shownFrom_bracket]
    | _ => rfl

/-- The depths that are shown for the brackets of a stream are told by those behind them. -/
theorem shownBrackets_eq (tokens : List Token) :
    shownBrackets tokens =
      (trace 0 tokens).map fun (side, behind) => (side, side.shownAt behind) :=
  filterMap_zip_eq_map_trace 0 tokens

/-! ## Balanced streams -/

/-- A stream in which every bracket has its partner. -/
inductive Balanced : List Token → Prop where
  | nil : Balanced []
  /-- A token that is no bracket. -/
  | other {token : Token} {rest : List Token} : token.bracket? = none → Balanced rest →
      Balanced (token :: rest)
  /-- A pair of brackets. -/
  | group {inner rest : List Token} : Balanced inner → Balanced rest →
      Balanced (.bracket .left :: (inner ++ .bracket .right :: rest))

/-- Balanced tokens open as many brackets as they close. -/
theorem Balanced.balance_eq (h : Balanced tokens) : balance tokens = 0 := by
  induction h with
  | nil => rfl
  | other hother _ ih => rw [balance_cons, Token.depthChange_of_bracket?_eq_none hother, ih]; rfl
  | group _ _ ihinner ihrest => simp [ihinner, ihrest]

/-- Balanced tokens never close a bracket from before them. -/
theorem Balanced.staysAbove (h : Balanced tokens) : StaysAbove tokens := by
  induction h with
  | nil => simp [StaysAbove]
  | other hother _ ih =>
    intro n
    cases n with
    | zero => exact Int.le_refl 0
    | succ n =>
      rw [List.take_succ_cons, balance_cons, Token.depthChange_of_bracket?_eq_none hother,
        Int.zero_add]
      exact ih n
  | @group inner rest hinner hrest ihinner ihrest =>
    intro n
    cases n with
    | zero => exact Int.le_refl 0
    | succ n =>
      rw [List.take_succ_cons, balance_cons, List.take_append, balance_append]
      cases hm : n - inner.length with
      | zero =>
        -- the place is inside the pair, one level up
        have habove := ihinner n
        rw [List.take_zero, balance_nil, Token.depthChange_left]
        omega
      | succ m =>
        -- the place is behind the pair
        have habove := ihrest m
        rw [List.take_of_length_le (by omega), hinner.balance_eq, List.take_succ_cons,
          balance_cons, Token.depthChange_left, Token.depthChange_right]
        omega

/-- Where the depth falls below the one at the start, some bracket closes the last level. -/
theorem exists_closing (tokens : List Token) (h : balance tokens < 0) :
    ∃ inner after, tokens = inner ++ .bracket .right :: after ∧ Balanced inner := by
  -- induction on the length, since a pair of brackets leaves two shorter streams
  induction hlength : tokens.length using Nat.strong_induction_on generalizing tokens with
  | _ length ih =>
    subst hlength
    cases tokens with
    | nil => exact absurd h (Int.lt_irrefl 0)
    | cons token rest =>
      rw [balance_cons] at h
      cases htoken : token.bracket? with
      | none =>
        rw [Token.depthChange_of_bracket?_eq_none htoken, Int.zero_add] at h
        obtain ⟨inner, after, rfl, hinner⟩ := ih _ (by simp) rest h rfl
        exact ⟨token :: inner, after, rfl, .other htoken hinner⟩
      | some side =>
        obtain rfl := Token.eq_bracket_of_bracket? htoken
        cases side with
        | right => exact ⟨[], rest, rfl, .nil⟩
        | left =>
          -- the partner of the bracket comes first, and then the one that is looked for
          have hrest : balance rest < -1 := by
            rw [Token.depthChange_left] at h
            omega
          obtain ⟨first, behind, rfl, hfirst⟩ := ih _ (by simp) rest (by omega) rfl
          rw [balance_append, balance_cons, hfirst.balance_eq, Token.depthChange_right] at hrest
          obtain ⟨second, after, rfl, hsecond⟩ := ih behind.length (by simp; omega) behind
            (by omega) rfl
          refine ⟨.bracket .left :: (first ++ .bracket .right :: second), after, ?_,
            .group hfirst hsecond⟩
          simp

/-! ## Partners -/

/-- The left bracket at one place and the right one at another are partners: what stands between
them is balanced. -/
structure Partners (tokens : List Token) (i j : Nat) : Prop where
  left : tokens[i]? = some (.bracket .left)
  right : tokens[j]? = some (.bracket .right)
  lt : i < j
  inner : Balanced ((tokens.drop (i + 1)).take (j - (i + 1)))

section Partners

variable {i j k : Nat}

/-- One more bracket is open behind the left partner than before it. -/
theorem Partners.balance_take_succ_left (h : Partners tokens i j) :
    balance (tokens.take (i + 1)) = balance (tokens.take i) + 1 :=
  balance_take_succ h.left

/-- Between partners the depth is at least that inside their level. -/
theorem Partners.le_balance_take (h : Partners tokens i j) (hi : i < k) (hj : k ≤ j) :
    balance (tokens.take i) + 1 ≤ balance (tokens.take k) := by
  obtain ⟨n, rfl⟩ := Nat.exists_eq_add_of_le (show i + 1 ≤ k from hi)
  have habove := h.inner.staysAbove n
  rw [List.take_take, Nat.min_eq_left (by omega)] at habove
  rw [balance_take_add, h.balance_take_succ_left]
  omega

/-- Up to the right partner, the left one is still open. -/
theorem Partners.balance_take_right (h : Partners tokens i j) :
    balance (tokens.take j) = balance (tokens.take i) + 1 := by
  have hsplit := balance_take_add tokens (i + 1) (j - (i + 1))
  rw [h.inner.balance_eq, h.balance_take_succ_left, Nat.add_sub_of_le (Nat.succ_le_of_lt h.lt)]
    at hsplit
  rw [hsplit, Int.add_zero]

/-- A bracket has no partner behind another one of its partners. -/
theorem Partners.le_of_partners (h : Partners tokens i j) (h' : Partners tokens i k) :
    k ≤ j := by
  by_contra hlt
  -- behind its partner the level is left, but inside the other pair it would go on
  have hle := h'.le_balance_take (Nat.lt_succ_of_lt h.lt) (Nat.succ_le_of_lt (Nat.not_le.mp hlt))
  rw [balance_take_succ h.right, h.balance_take_right, Token.depthChange_right] at hle
  omega

/-- **Partners are unique.** In a stream without unmatched brackets every left bracket has exactly
one partner. -/
theorem existsUnique_partner (habove : StaysAbove tokens) (hbalance : balance tokens = 0)
    (h : tokens[i]? = some (.bracket .left)) : ∃! j, Partners tokens i j := by
  -- the rest of the stream closes the level of the bracket
  have hrest : balance (tokens.drop (i + 1)) < 0 := by
    have hsplit := balance_append (tokens.take (i + 1)) (tokens.drop (i + 1))
    rw [List.take_append_drop, balance_take_succ h, hbalance, Token.depthChange_left] at hsplit
    have hle := habove i
    omega
  obtain ⟨inner, after, hafter, hinner⟩ := exists_closing _ hrest
  have hpartner : Partners tokens i (i + 1 + inner.length) := by
    refine ⟨h, ?_, by omega, ?_⟩
    · rw [← List.getElem?_drop, hafter, List.getElem?_append_right (Nat.le_refl _), Nat.sub_self,
        List.getElem?_cons_zero]
    · rw [Nat.add_sub_cancel_left, hafter, List.take_left]
      exact hinner
  refine ⟨_, hpartner, ?_⟩
  intro j hj
  exact Nat.le_antisymm (hpartner.le_of_partners hj) (hj.le_of_partners hpartner)

/-- **Partners are shown at one depth**, and nothing between them is shown below it. -/
theorem Partners.shown (h : Partners tokens i j) :
    ∃ level, (bracketDepths depth tokens)[i]? = some level ∧
      (bracketDepths depth tokens)[j]? = some level ∧
        ∀ k shown, i < k → k < j → (bracketDepths depth tokens)[k]? = some shown →
          level ≤ shown := by
  refine ⟨depth + balance (tokens.take i) + 1, getElem?_bracketDepths h.left, ?_, ?_⟩
  · rw [getElem?_bracketDepths h.right, h.balance_take_right, ← Int.add_assoc]
    rfl
  · intro k shown hi hj hshown
    -- between the two, the depth is at least that behind the left one
    have hk : k < tokens.length := by
      have hbound := (List.getElem?_eq_some_iff.mp h.right).1
      omega
    rw [getElem?_bracketDepths (List.getElem?_eq_getElem hk), Option.some.injEq] at hshown
    have hle := tokens[k].le_shownFrom (depth + balance (tokens.take k))
    have hbalance := h.le_balance_take hi (Nat.le_of_lt hj)
    omega

end Partners

end Nesting

end ExprLex
