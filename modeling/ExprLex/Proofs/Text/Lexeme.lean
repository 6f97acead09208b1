import ExprLex.Proofs.Text.Classes
import Mathlib.Data.List.SplitBy

/-!
# Lexemes of a Text

A text falls into lexemes: its maximal runs of digits and points, and every other character on
its own. Read from the left, each character either makes the last lexeme longer or is the first
one of a new lexeme.
-/

namespace ExprLex.Text

/-- The lexemes of a text, in order: neighbours belong together if both may stand in a number. -/
def lexemes (cs : List Char) : List (List Char) :=
  cs.splitBy fun a b => isNumeric a && isNumeric b

variable {cs current : List Char} {finished : List (List Char)} {c : Char}

/-- Lexemes share out a text without leaving out anything. -/
theorem flatten_lexemes (cs : List Char) : (lexemes cs).flatten = cs :=
  List.flatten_splitBy ..

/-- A character that no number in front of it takes up is a lexeme of its own. -/
theorem lexemes_append_begun
    (h : isNumeric c = true → ∀ d ∈ cs.getLast?, isNumeric d = false) :
    lexemes (cs ++ [c]) = lexemes cs ++ [[c]] := by
  apply List.splitBy_append
  intro d hd e he
  obtain rfl : c = e := by simpa using he
  cases hc : isNumeric c with
  | false => rw [Bool.and_false]
  | true => rw [h hc d hd, Bool.false_and]

/-- A character of a number makes the number in front of it longer. -/
theorem lexemes_append_extended (hcs : lexemes cs = finished ++ [current])
    (hcurrent : ∀ d ∈ current, isNumeric d = true) (hc : isNumeric c = true) :
    lexemes (cs ++ [c]) = finished ++ [current ++ [c]] := by
  obtain ⟨hflatten, hnil, hchains, hedges⟩ := List.splitBy_eq_iff.mp hcs
  apply List.splitBy_eq_iff.mpr
  refine ⟨by simp [hflatten], ?_, ?_, ?_⟩
  · -- no lexeme is empty
    have hfinished : [] ∉ finished := fun hmem => hnil (List.mem_append_left _ hmem)
    simpa using hfinished
  · -- neighbours in one lexeme belong together
    intro text htext
    rcases List.mem_append.mp htext with htext | htext
    · exact hchains text (List.mem_append_left _ htext)
    · rw [List.mem_singleton.mp htext]
      apply List.isChain_append.mpr
      refine ⟨hchains current (by simp), List.isChain_singleton c, ?_⟩
      intro d hd e he
      obtain rfl : c = e := by simpa using he
      rw [hcurrent d (List.mem_of_mem_getLast? hd), hc, Bool.and_self]
  · -- the edge in front of the last lexeme is where it was
    obtain ⟨hfinished, -, hlast⟩ := List.isChain_append.mp hedges
    apply List.isChain_append.mpr
    refine ⟨hfinished, List.isChain_singleton _, ?_⟩
    intro text htext last hmem
    obtain rfl : current ++ [c] = last := by simpa using hmem
    obtain ⟨ha, hb, hedge⟩ := hlast text htext current (by simp)
    refine ⟨ha, by simp, ?_⟩
    rw [List.head_append_of_ne_nil hb]
    exact hedge

/-- A second point does not begin another number. -/
example : lexemes ['1', '.', '.', '5', '(', '2'] = [['1', '.', '.', '5'], ['('], ['2']] := by
  decide

end ExprLex.Text
