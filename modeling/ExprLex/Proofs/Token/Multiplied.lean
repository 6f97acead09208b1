import ExprLex.Proofs.Token.Stage
import ExprLex.Proofs.Tokenization.Written

/-!
# Streams With Inserted Multiplications

Where a factor comes right behind an operand, the two are juxtaposed, and a multiplication is
inserted between them. `Multiplied` says how such a stream grows at its end: by a token that is not
juxtaposed to the one before it, or by a multiplication and a factor. From this alone it follows
where the inserted tokens are, and that there is one for each juxtaposition of the written tokens.
-/

namespace ExprLex

/-- The neighbours of which the first ends an operand and the second starts one. -/
def juxtapositions (tokens : List Token) : List (Token × Token) :=
  (tokens.zip tokens.tail).filter fun (a, b) => a.endsOperand && b.startsOperand

/-- Two factors stand side by side: the first token ends an operand, and the second is a number or a
left bracket. They are not both numbers, which would be read as one. -/
structure Token.Juxtaposed (a b : Token) : Prop where
  ends : a.endsOperand = true
  factor : b.kind = .number ∨ b = .bracket .left
  apart : ¬(a.kind = .number ∧ b.kind = .number)

/-- The second of two juxtaposed tokens starts an operand. -/
theorem Token.Juxtaposed.starts {a b : Token} (h : a.Juxtaposed b) : b.startsOperand = true := by
  cases b with
  | number symbol => rfl
  | operator op => rcases h.factor with hb | hb <;> cases hb
  | bracket side => rcases h.factor with hb | hb <;> cases hb; rfl

/-- A multiplication was inserted between juxtaposed tokens, and nowhere else. -/
inductive Multiplied : List Token → List Nat → Prop where
  | nil : Multiplied [] []
  /-- A token that is written and not juxtaposed to the one before it. -/
  | written {tokens : List Token} {implicit : List Nat} {token : Token} :
      Multiplied tokens implicit →
      (∀ a ∈ tokens.getLast?, ¬(a.endsOperand = true ∧ token.startsOperand = true)) →
      Multiplied (tokens ++ [token]) implicit
  /-- A multiplication that is inserted and the factor behind it. -/
  | inserted {tokens : List Token} {implicit : List Nat} {a b : Token} :
      Multiplied tokens implicit → a ∈ tokens.getLast? → a.Juxtaposed b →
      Multiplied (tokens ++ [.operator .multiplication] ++ [b]) (implicit ++ [tokens.length])

/-! ## Neighbours at the end -/

section Juxtapositions

variable {tokens : List Token} {a b : Token}

private theorem zip_tail_append (before : List Token) (a b : Token) :
    (before ++ [a] ++ [b]).zip (before ++ [a] ++ [b]).tail =
      (before ++ [a]).zip (before ++ [a]).tail ++ [(a, b)] := by
  induction before with
  | nil => rfl
  | cons first rest ih =>
    cases rest with
    | nil => rfl
    | cons second others => simpa using ih

/-- One more token makes at most one more juxtaposition, with the token before it. -/
theorem juxtapositions_append (h : a ∈ tokens.getLast?) (b : Token) :
    juxtapositions (tokens ++ [b]) = juxtapositions tokens ++
      if a.endsOperand = true ∧ b.startsOperand = true then [(a, b)] else [] := by
  obtain ⟨before, rfl⟩ := List.getLast?_eq_some_iff.mp h
  rw [juxtapositions, zip_tail_append, List.filter_append, List.filter_singleton]
  simp [juxtapositions]

/-- A token that is not juxtaposed to the one before it adds none. -/
theorem juxtapositions_append_of_not
    (h : ∀ a ∈ tokens.getLast?, ¬(a.endsOperand = true ∧ b.startsOperand = true)) :
    juxtapositions (tokens ++ [b]) = juxtapositions tokens := by
  cases hlast : tokens.getLast? with
  | none =>
    rw [List.getLast?_eq_none_iff.mp hlast]
    rfl
  | some a => rw [juxtapositions_append hlast b, if_neg (h a hlast), List.append_nil]

end Juxtapositions

/-! ## Where the inserted tokens are -/

namespace Multiplied

variable {tokens : List Token} {implicit : List Nat}

/-- Which number the last token is does not matter. -/
theorem renumber {symbol : String} (h : Multiplied (tokens ++ [.number symbol]) implicit)
    (symbol' : String) : Multiplied (tokens ++ [.number symbol']) implicit := by
  generalize hall : tokens ++ [.number symbol] = all at h
  cases h with
  | nil => simp at hall
  | written hbefore hnot =>
    obtain ⟨rfl, hlast⟩ := List.append_inj' hall rfl
    rw [← List.singleton_inj.mp hlast] at hnot
    exact .written hbefore hnot
  | inserted hbefore ha hab =>
    obtain ⟨rfl, hlast⟩ := List.append_inj' hall rfl
    rw [← List.singleton_inj.mp hlast] at hab
    exact .inserted hbefore ha ⟨hab.ends, .inl rfl, hab.apart⟩

/-- The last token is one that was written. -/
theorem succ_lt_length (h : Multiplied tokens implicit) :
    ∀ i ∈ implicit, i + 1 < tokens.length := by
  induction h with
  | nil => simp
  | written _ _ ih =>
    intro i hi
    have := ih i hi
    simp
    omega
  | inserted _ _ _ ih =>
    intro i hi
    rcases List.mem_append.mp hi with hi | hi
    · have := ih i hi
      simp
      omega
    · rw [List.mem_singleton.mp hi]
      simp

theorem lt_length (h : Multiplied tokens implicit) : ∀ i ∈ implicit, i < tokens.length :=
  fun i hi => Nat.lt_of_succ_lt (h.succ_lt_length i hi)

theorem increasing (h : Multiplied tokens implicit) : implicit.Pairwise (· < ·) := by
  induction h with
  | nil => exact .nil
  | written _ _ ih => exact ih
  | inserted htokens _ _ ih =>
    refine List.pairwise_append.mpr ⟨ih, List.pairwise_singleton _ _, ?_⟩
    intro i hi j hj
    rw [List.mem_singleton.mp hj]
    exact htokens.lt_length i hi

/-- Each inserted token is a multiplication between juxtaposed tokens. -/
theorem juxtaposed (h : Multiplied tokens implicit) :
    ∀ i ∈ implicit, 0 < i ∧ tokens[i]? = some (.operator .multiplication) ∧
      ∃ a b, tokens[i - 1]? = some a ∧ tokens[i + 1]? = some b ∧ a.Juxtaposed b := by
  induction h with
  | nil => simp
  | written htokens _ ih =>
    -- what stands at the earlier indices is not moved
    intro i hi
    have hlt := htokens.succ_lt_length i hi
    obtain ⟨hpos, hi, a, b, ha, hb, hab⟩ := ih i hi
    refine ⟨hpos, ?_, a, b, ?_, ?_, hab⟩
    · rw [List.getElem?_append_left (by omega), hi]
    · rw [List.getElem?_append_left (by omega), ha]
    · rw [List.getElem?_append_left (by omega), hb]
  | @inserted tokens implicit a b htokens ha hab ih =>
    intro i hi
    rcases List.mem_append.mp hi with hi | hi
    · have hlt := htokens.succ_lt_length i hi
      obtain ⟨hpos, hi, a', b', ha', hb', hab'⟩ := ih i hi
      rw [List.append_assoc]
      refine ⟨hpos, ?_, a', b', ?_, ?_, hab'⟩
      · rw [List.getElem?_append_left (by omega), hi]
      · rw [List.getElem?_append_left (by omega), ha']
      · rw [List.getElem?_append_left (by omega), hb']
    · obtain ⟨before, rfl⟩ := List.getLast?_eq_some_iff.mp ha
      rw [List.mem_singleton.mp hi]
      refine ⟨by simp, by simp, a, b, by simp, ?_, hab⟩
      rw [List.getElem?_append_right (by simp)]
      simp

/-! ## The tokens that were written -/

/-- An inserted multiplication is left out of what was written, and the factor behind it is not. -/
theorem placed_inserted (h : ∀ i ∈ implicit, i < tokens.length) (product b : Token) :
    Tokenization.placed ⟨tokens ++ [product] ++ [b], implicit ++ [tokens.length]⟩ =
      Tokenization.placed ⟨tokens, implicit⟩ ++ [(b, tokens.length + 1)] := by
  have hlt : ∀ i ∈ implicit ++ [tokens.length], i < (tokens ++ [product]).length := by
    intro i hi
    rw [List.length_append, List.length_singleton]
    rcases List.mem_append.mp hi with hi | hi
    · exact Nat.lt_succ_of_lt (h i hi)
    · rw [List.mem_singleton.mp hi]
      exact Nat.lt_succ_self _
  rw [Tokenization.placed_append_token hlt, Tokenization.placed_append_implicit,
    List.length_append, List.length_singleton]

/-- The last token is always one that was written. -/
theorem getLast?_placed (h : Multiplied tokens implicit) :
    (Tokenization.placed ⟨tokens, implicit⟩).getLast? =
      tokens.getLast?.map fun a => (a, tokens.length - 1) := by
  cases h with
  | nil => rfl
  | written htokens =>
    rw [Tokenization.placed_append_token htokens.lt_length]
    simp
  | inserted htokens =>
    rw [placed_inserted htokens.lt_length]
    simp

/-- What was written ends with the last token. -/
theorem getLast?_explicit (h : Multiplied tokens implicit) :
    (Tokenization.explicit ⟨tokens, implicit⟩).getLast? = tokens.getLast? := by
  rw [← Tokenization.map_fst_placed, List.getLast?_map, h.getLast?_placed, Option.map_map]
  exact Option.map_id'

/-- Neighbours among the written tokens are juxtaposed exactly if a token was inserted between
them. -/
theorem isChain_placed (h : Multiplied tokens implicit) :
    (Tokenization.placed ⟨tokens, implicit⟩).IsChain fun x y =>
      (x.1.endsOperand = true ∧ y.1.startsOperand = true) ↔
        ∃ i ∈ implicit, x.2 < i ∧ i < y.2 := by
  induction h with
  | nil => exact .nil
  | written htokens hnot ih =>
    rw [Tokenization.placed_append_token htokens.lt_length]
    refine List.isChain_append.mpr ⟨ih, List.isChain_singleton _, ?_⟩
    intro x hx y hy
    rw [htokens.getLast?_placed] at hx
    obtain ⟨a, ha, rfl⟩ := Option.map_eq_some_iff.mp hx
    obtain rfl : _ = y := by simpa using hy
    -- the two stand side by side, so that there is no room for an inserted token
    refine iff_of_false (hnot a ha) ?_
    rintro ⟨i, -, hlow, hhigh⟩
    dsimp only at hlow hhigh
    omega
  | @inserted tokens implicit a b htokens ha hab ih =>
    rw [placed_inserted htokens.lt_length]
    refine List.isChain_append.mpr ⟨?_, List.isChain_singleton _, ?_⟩
    · -- the new index lies behind all earlier tokens
      refine ih.imp_of_mem_imp ?_
      intro x y _ hy hxy
      have hlt := Tokenization.lt_length_of_mem_placed hy
      rw [hxy]
      constructor
      · rintro ⟨i, hi, hbetween⟩
        exact ⟨i, List.mem_append_left _ hi, hbetween⟩
      · rintro ⟨i, hi, hbetween⟩
        rcases List.mem_append.mp hi with hi | hi
        · exact ⟨i, hi, hbetween⟩
        · rw [List.mem_singleton.mp hi] at hbetween
          omega
    · intro x hx y hy
      rw [htokens.getLast?_placed] at hx
      obtain ⟨a', ha', rfl⟩ := Option.map_eq_some_iff.mp hx
      obtain rfl : _ = y := by simpa using hy
      obtain rfl : a = a' := Option.some.inj (ha.symm.trans ha')
      have hpos : 0 < tokens.length := List.length_pos_of_mem (List.mem_of_mem_getLast? ha)
      refine iff_of_true ⟨hab.ends, hab.starts⟩ ⟨tokens.length, by simp, ?_, ?_⟩
      · dsimp only
        omega
      · exact Nat.lt_succ_self _

/-- There are as many inserted tokens as juxtapositions of written ones. -/
theorem length_eq (h : Multiplied tokens implicit) :
    implicit.length = (juxtapositions (Tokenization.explicit ⟨tokens, implicit⟩)).length := by
  induction h with
  | nil => rfl
  | written htokens hnot ih =>
    rw [← htokens.getLast?_explicit] at hnot
    rw [Tokenization.explicit_append_token htokens.lt_length, juxtapositions_append_of_not hnot, ih]
  | inserted htokens ha hab ih =>
    rw [← htokens.getLast?_explicit] at ha
    rw [← Tokenization.map_fst_placed, placed_inserted htokens.lt_length, List.map_append,
      Tokenization.map_fst_placed, List.map_singleton, juxtapositions_append ha,
      if_pos ⟨hab.ends, hab.starts⟩, List.length_append, List.length_append, ih]
    rfl

/-- Each token was either inserted or written. -/
theorem length_tokens (h : Multiplied tokens implicit) :
    tokens.length = implicit.length + (Tokenization.explicit ⟨tokens, implicit⟩).length := by
  induction h with
  | nil => rfl
  | written htokens _ ih =>
    rw [Tokenization.explicit_append_token htokens.lt_length, List.length_append,
      List.length_append, ih, Nat.add_assoc]
  | inserted htokens _ _ ih =>
    rw [← Tokenization.map_fst_placed, List.length_map] at ih ⊢
    rw [placed_inserted htokens.lt_length]
    simp only [List.length_append, List.length_singleton]
    omega

end Multiplied

end ExprLex
