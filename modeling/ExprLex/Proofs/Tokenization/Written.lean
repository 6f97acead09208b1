import ExprLex.Tokenization

/-!
# The Tokens That Were Written

A tokenization tells by their indices which of its tokens were inserted. The others were written,
and keep their indices. Each token that is appended joins one side or the other.
-/

namespace ExprLex.Tokenization

/-- The tokens that were written, with their indices among all tokens. -/
def placed (t : Tokenization) : List (Token × Nat) :=
  t.tokens.zipIdx.filter fun (_, index) => !t.implicit.contains index

theorem map_fst_placed (t : Tokenization) : t.placed.map Prod.fst = t.explicit := rfl

variable {tokens : List Token} {implicit : List Nat}

theorem lt_length_of_mem_placed {entry : Token × Nat} (h : entry ∈ placed ⟨tokens, implicit⟩) :
    entry.2 < tokens.length :=
  List.snd_lt_of_mem_zipIdx (List.mem_filter.mp h).1

theorem placed_append_token (h : ∀ i ∈ implicit, i < tokens.length) (token : Token) :
    placed ⟨tokens ++ [token], implicit⟩ =
      placed ⟨tokens, implicit⟩ ++ [(token, tokens.length)] := by
  have hindex : tokens.length ∉ implicit := fun hmem => Nat.lt_irrefl _ (h _ hmem)
  simp [placed, List.zipIdx_append, List.filter_append, hindex]

theorem placed_append_implicit (token : Token) :
    placed ⟨tokens ++ [token], implicit ++ [tokens.length]⟩ = placed ⟨tokens, implicit⟩ := by
  have hbefore : ∀ entry ∈ tokens.zipIdx,
      (!(implicit ++ [tokens.length]).contains entry.2) = !implicit.contains entry.2 := by
    -- the new index lies behind all earlier tokens
    intro entry hentry
    have hlt := List.snd_lt_of_mem_zipIdx hentry
    have hne : entry.2 ≠ tokens.length := by omega
    simp [hne]
  simp only [placed, List.zipIdx_append, List.filter_append]
  rw [List.filter_congr hbefore]
  simp

theorem explicit_append_token (h : ∀ i ∈ implicit, i < tokens.length) (token : Token) :
    explicit ⟨tokens ++ [token], implicit⟩ = explicit ⟨tokens, implicit⟩ ++ [token] := by
  rw [← map_fst_placed, placed_append_token h, List.map_append]
  rfl

theorem explicit_append_implicit (token : Token) :
    explicit ⟨tokens ++ [token], implicit ++ [tokens.length]⟩ = explicit ⟨tokens, implicit⟩ := by
  rw [← map_fst_placed, placed_append_implicit, map_fst_placed]

end ExprLex.Tokenization
