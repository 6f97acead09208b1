import ExprLex.Tokenization
import Mathlib.Algebra.GroupWithZero.Nat

/-!
# Tokens Behind Other Tokens

Two results of reading can be put one behind the other. The indices of the second then move by the
number of tokens in the first, so that all arithmetic with indices is done here once: putting
together is associative, and nothing has no effect on either side.

## Contents

- `empty`, `written`, `inserted`: no tokens, tokens that were written, a multiplication that was not
- `grouped`: tokens between brackets
- `multiplied`: groups side by side, with the multiplications between them
- `groupStart`: where the groups are among the tokens
-/

namespace ExprLex

namespace Tokenization

/-- No tokens. -/
def empty : Tokenization where
  tokens := []
  implicit := []

/-- Tokens that were all written. -/
def written (tokens : List Token) : Tokenization where
  tokens
  implicit := []

/-- A multiplication that was not written. -/
def inserted : Tokenization where
  tokens := [.operator .multiplication]
  implicit := [0]

/-- Tokens with others behind them, whose indices move. -/
def append (t u : Tokenization) : Tokenization where
  tokens := t.tokens ++ u.tokens
  implicit := t.implicit ++ u.implicit.map (t.tokens.length + ·)

instance : Append Tokenization where
  append := append

variable {t u v : Tokenization}

@[simp] theorem tokens_append : (t ++ u).tokens = t.tokens ++ u.tokens := rfl

@[simp] theorem implicit_append :
    (t ++ u).implicit = t.implicit ++ u.implicit.map (t.tokens.length + ·) := rfl

@[simp] theorem tokens_written (tokens : List Token) : (written tokens).tokens = tokens := rfl

@[simp] theorem implicit_written (tokens : List Token) : (written tokens).implicit = [] := rfl

theorem eq_of_fields (htokens : t.tokens = u.tokens) (himplicit : t.implicit = u.implicit) :
    t = u := by
  cases t
  cases u
  simp_all

@[simp] theorem append_empty (t : Tokenization) : t ++ empty = t :=
  eq_of_fields (by simp [empty]) (by simp [empty])

@[simp] theorem empty_append (t : Tokenization) : empty ++ t = t :=
  eq_of_fields (by simp [empty]) (by simp [empty])

theorem append_assoc (t u v : Tokenization) : t ++ u ++ v = t ++ (u ++ v) := by
  apply eq_of_fields
  · simp
  · simp [Nat.add_assoc]

/-- What stands in front of a part is determined by the whole. -/
theorem append_right_cancel (h : t ++ v = u ++ v) : t = u := by
  have htokens : t.tokens = u.tokens := List.append_cancel_right (congrArg tokens h)
  have himplicit := congrArg implicit h
  rw [implicit_append, implicit_append, htokens] at himplicit
  exact eq_of_fields htokens (List.append_cancel_right himplicit)

/-! ## Groups -/

/-- Tokens between brackets. -/
def grouped (t : Tokenization) : Tokenization :=
  written [.bracket .left] ++ t ++ written [.bracket .right]

/-- Groups side by side, each with a multiplication in front of it. -/
def multiplied (ts : List Tokenization) : Tokenization :=
  ts.foldr (fun t rest => inserted ++ grouped t ++ rest) empty

@[simp] theorem multiplied_nil : multiplied [] = empty := rfl

@[simp] theorem multiplied_cons (ts : List Tokenization) :
    multiplied (t :: ts) = inserted ++ grouped t ++ multiplied ts := rfl

theorem tokens_grouped (t : Tokenization) :
    t.grouped.tokens = [.bracket .left] ++ t.tokens ++ [.bracket .right] := rfl

/-- The left bracket of a group moves all indices by one. -/
theorem implicit_grouped (t : Tokenization) : t.grouped.implicit = t.implicit.map (1 + ·) := by
  simp [grouped]

/-- Groups side by side are written with a multiplication in front of each. -/
theorem tokens_multiplied (ts : List Tokenization) :
    (multiplied ts).tokens = ts.flatMap fun t =>
      [.operator .multiplication, .bracket .left] ++ t.tokens ++ [.bracket .right] := by
  induction ts with
  | nil => rfl
  | cons t rest ih => simp [ih, inserted, tokens_grouped]

/-- The index of the left bracket of a group among groups side by side: each group has two brackets,
and there is a multiplication behind it. -/
def groupStart (ts : List Tokenization) (k : Nat) : Nat :=
  ((ts.take k).map fun t => t.tokens.length + 3).sum

@[simp] theorem groupStart_zero (ts : List Tokenization) : groupStart ts 0 = 0 := by
  simp [groupStart]

@[simp] theorem groupStart_succ (ts : List Tokenization) (k : Nat) :
    groupStart (t :: ts) (k + 1) = t.tokens.length + 3 + groupStart ts k := by
  simp [groupStart]

private theorem exists_lt_cons_iff {ts : List Tokenization} {P : Nat → Prop} :
    (∃ k, k < (t :: ts).length ∧ P k) ↔ P 0 ∨ ∃ k, k < ts.length ∧ P (k + 1) := by
  rw [← Nat.or_exists_add_one]
  simp

private theorem exists_getElem?_cons_iff {ts : List Tokenization}
    {P : Nat → Tokenization → Prop} :
    (∃ k u, (t :: ts)[k]? = some u ∧ P k u) ↔
      P 0 t ∨ ∃ k u, ts[k]? = some u ∧ P (k + 1) u := by
  rw [← Nat.or_exists_add_one]
  simp

/-- Of the first group, the multiplication in front of it and those in it are inserted; all others
stand behind it. -/
private theorem mem_implicit_multiplied_cons {ts : List Tokenization} {i : Nat} :
    i ∈ (multiplied (t :: ts)).implicit ↔
      i = 0 ∨ (∃ j ∈ t.implicit, i = 2 + j) ∨
        ∃ j ∈ (multiplied ts).implicit, i = t.tokens.length + 3 + j := by
  have hlength : (inserted ++ t.grouped).tokens.length = t.tokens.length + 3 := by
    simp [inserted, tokens_grouped]
  have himplicit : (inserted ++ t.grouped).implicit = 0 :: t.implicit.map (2 + ·) := by
    have hshift : (fun j => 1 + j) ∘ (fun j => 1 + j) = (2 + ·) := by
      funext j
      exact (Nat.add_assoc 1 1 j).symm
    rw [implicit_append, implicit_grouped, List.map_map, inserted]
    exact congrArg (fun shift => 0 :: t.implicit.map shift) hshift
  rw [multiplied_cons, implicit_append, hlength, himplicit]
  simp only [List.mem_append, List.mem_cons, List.mem_map, eq_comm, or_assoc]

/-- The inserted tokens of groups that each have a multiplication in front of them. -/
theorem mem_implicit_multiplied (ts : List Tokenization) (i : Nat) :
    i ∈ (multiplied ts).implicit ↔
      (∃ k, k < ts.length ∧ i = groupStart ts k) ∨
        ∃ k t, ts[k]? = some t ∧ ∃ j ∈ t.implicit, i = groupStart ts k + 2 + j := by
  induction ts generalizing i with
  | nil => simp [empty]
  | cons t rest ih =>
    rw [mem_implicit_multiplied_cons, exists_lt_cons_iff, exists_getElem?_cons_iff]
    simp only [groupStart_zero, groupStart_succ, Nat.zero_add]
    constructor
    · intro h
      rcases h with h | h | ⟨j, hj, rfl⟩
      · exact .inl (.inl h)
      · exact .inr (.inl h)
      · -- the other groups start behind the first one
        rcases (ih j).mp hj with ⟨k, hk, rfl⟩ | ⟨k, u, hu, l, hl, rfl⟩
        · exact .inl (.inr ⟨k, hk, rfl⟩)
        · exact .inr (.inr ⟨k, u, hu, l, hl, by omega⟩)
    · intro h
      rcases h with (h | ⟨k, hk, rfl⟩) | (h | ⟨k, u, hu, l, hl, rfl⟩)
      · exact .inl h
      · exact .inr (.inr ⟨_, (ih _).mpr (.inl ⟨k, hk, rfl⟩), rfl⟩)
      · exact .inr (.inl h)
      · exact .inr (.inr ⟨_, (ih _).mpr (.inr ⟨k, u, hu, l, hl, rfl⟩), by omega⟩)

/-- Each group stands where it starts. -/
theorem grouped_prefix_drop_multiplied {ts : List Tokenization} {k : Nat} (h : ts[k]? = some t) :
    t.grouped.tokens <+: (multiplied ts).tokens.drop (groupStart ts k + 1) := by
  induction ts generalizing k with
  | nil => simp at h
  | cons first rest ih =>
    cases k with
    | zero =>
      obtain rfl : first = t := by simpa using h
      simp [inserted]
    | succ k =>
      have hlength : (inserted ++ first.grouped).tokens.length = first.tokens.length + 3 := by
        simp [inserted, tokens_grouped]
      rw [multiplied_cons, tokens_append (u := multiplied rest), groupStart_succ, Nat.add_assoc,
        ← hlength, List.drop_length_add_append]
      exact ih (by simpa using h)

/-! ## Groups without a multiplication in front of them -/

/-- What is put together from groups has an inserted multiplication in front of it if all groups
have one. -/
theorem multiplied_cons_eq (first : Tokenization) (rest : List Tokenization) :
    multiplied (first :: rest) = inserted ++ (first.grouped ++ multiplied rest) :=
  append_assoc ..

/-- The inserted tokens are those within the groups and one in front of each group but the first. -/
theorem mem_implicit_groups (first : Tokenization) (rest : List Tokenization) (i : Nat) :
    i ∈ (first.grouped ++ multiplied rest).implicit ↔
      (∃ k, 0 < k ∧ k < (first :: rest).length ∧ i + 1 = groupStart (first :: rest) k) ∨
        ∃ k t, (first :: rest)[k]? = some t ∧
          ∃ j ∈ t.implicit, i = groupStart (first :: rest) k + 1 + j := by
  have hmoved : i ∈ (first.grouped ++ multiplied rest).implicit ↔
      i + 1 ∈ (multiplied (first :: rest)).implicit := by
    rw [multiplied_cons_eq, implicit_append (u := first.grouped ++ multiplied rest)]
    simp [inserted, Nat.add_comm 1]
  -- put a multiplication in front of the first group too, and move everything by one
  rw [hmoved, mem_implicit_multiplied]
  apply or_congr
  · -- the first group starts at zero, where there is no room for a multiplication
    constructor
    · intro h
      obtain ⟨k, hk, hi⟩ := h
      have hpos : 0 < k := by
        apply Nat.pos_of_ne_zero
        intro hzero
        simp [hzero] at hi
      exact ⟨k, hpos, hk, hi⟩
    · intro h
      obtain ⟨k, -, hk, hi⟩ := h
      exact ⟨k, hk, hi⟩
  · simp only [Nat.add_right_comm _ 2, Nat.add_right_comm _ 1, Nat.add_right_cancel_iff]

/-- Each group stands where it starts. -/
theorem grouped_prefix_drop_groups {first : Tokenization} {rest : List Tokenization} {k : Nat}
    (h : (first :: rest)[k]? = some t) :
    t.grouped.tokens <+:
      (first.grouped ++ multiplied rest).tokens.drop (groupStart (first :: rest) k) := by
  have hdrop := grouped_prefix_drop_multiplied h
  rwa [multiplied_cons_eq, tokens_append (u := first.grouped ++ multiplied rest), inserted,
    List.singleton_append, List.drop_succ_cons] at hdrop

end Tokenization

end ExprLex
