import ExprLex.Proofs.Scanner.Notices

/-!
# Where Reading Stops

Every text falls into what can be read of it and the rest, which begins with the character that
fails. An expression that is refused has a fault there, or owes something if there is no rest.
-/

namespace ExprLex

namespace Scanner

/-- A text can be read up to a place, and not any further. -/
structure Stops (table : OperatorTable) (text before after : List Char) : Prop where
  split : text = before ++ after
  reads : ∃ s, feed table before fresh = .ok () s
  fails : ∀ c ∈ after.head?, ∃ e s, feed table (before ++ [c]) fresh = .error e s

variable {table : OperatorTable} {text before after : List Char} {s : Scanner} {e : SyntaxError}

/-- Every text has a place where reading stops. -/
theorem exists_stops (table : OperatorTable) (text : List Char) :
    ∃ before after, Stops table text before after := by
  cases h : feed table text fresh with
  | ok _ s => exact ⟨text, [], by simp, ⟨s, h⟩, by simp⟩
  | error e s =>
    obtain ⟨before, c, after, rfl, hfeed, hfault⟩ := feed_eq_error_iff.mp h
    refine ⟨before, c :: after, rfl, ⟨s, hfeed⟩, ?_⟩
    intro d hd
    obtain rfl : c = d := Option.some.inj hd
    exact ⟨e, s, feed_eq_error_iff.mpr ⟨before, c, [], rfl, hfeed, hfault⟩⟩

/-- What is wrong where reading stops. -/
def Refused (table : OperatorTable) (next : Option Char) (s : Scanner) (e : SyntaxError) : Prop :=
  match next with
  | some c => Fault table c s e
  | none => s.Owes e

end Scanner

/-- **The error is found where reading stops.** -/
theorem refused_of_tokenize {table : OperatorTable} {expression : String} {e : SyntaxError}
    {before after : List Char} (h : tokenize table expression = .error e)
    (hstops : Scanner.Stops table expression.toList before after) :
    ∃ s, Scanner.feed table before (.opening expression) = .ok () s ∧
      Scanner.Refused table after.head? s e := by
  obtain ⟨hsplit, ⟨read, hread⟩, hfails⟩ := hstops
  obtain ⟨s, hs, -⟩ := Scanner.feed_of_alike (Scanner.fresh.alike_reset_opening expression) hread
  refine ⟨s, hs, ?_⟩
  rw [tokenize_eq_error_iff, hsplit] at h
  cases after with
  | nil =>
    -- all characters can be read, so that the fault is at the end
    rw [List.append_nil, hs] at h
    rcases h with ⟨_, hfailed⟩ | ⟨last, hlast, howes⟩
    · cases hfailed
    · cases hlast
      exact howes
  | cons c rest =>
    obtain ⟨e', failed, hfailed⟩ := hfails c rfl
    obtain ⟨failed', hfailed', -⟩ :=
      Scanner.feed_error_of_alike (Scanner.fresh.alike_reset_opening expression) hfailed
    rw [Scanner.feed_append, hs] at hfailed'
    obtain ⟨-, hfault⟩ := Scanner.feed_singleton_eq_error_iff.mp hfailed'
    -- the expression fails with the fault of the character, whatever is behind it
    have hfail : Scanner.feed table (before ++ c :: rest) (.opening expression) = .error e' s := by
      rw [Scanner.feed_append, hs]
      exact Scanner.feed_cons_of_fault hfault
    rw [hfail] at h
    rcases h with ⟨_, hsame⟩ | ⟨_, hread, -⟩
    · cases hsame
      exact hfault
    · cases hread

end ExprLex
