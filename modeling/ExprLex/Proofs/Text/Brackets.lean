import ExprLex.Proofs.Text.Classes
import Mathlib.Data.List.DropRight

/-!
# Brackets and Numbers at the End of a Text

What a text tells about the place behind it: how many brackets are open, where the brackets are, and
whether a number is in progress there. Each of these is known after one more character from that
character alone.
-/

namespace ExprLex.Text

/-- The brackets of a text in order, with their places. -/
def brackets (cs : List Char) : List (Char × Nat) :=
  cs.zipIdx.filter fun (c, _) => c == '(' || c == ')'

/-- By how many there are more left brackets than right ones. -/
def balance (cs : List Char) : Int :=
  cs.count '(' - cs.count ')'

/-- The digits and points that a text ends with. -/
def run (cs : List Char) : List Char :=
  cs.rtakeWhile isNumeric

variable {cs : List Char} {c : Char}

theorem brackets_append_bracket (h : c = '(' ∨ c = ')') :
    brackets (cs ++ [c]) = brackets cs ++ [(c, cs.length)] := by
  simp [brackets, List.zipIdx_append, List.filter_append, h]

theorem brackets_append_other (hleft : c ≠ '(') (hright : c ≠ ')') :
    brackets (cs ++ [c]) = brackets cs := by
  simp [brackets, List.zipIdx_append, List.filter_append, hleft, hright]

/-- Brackets are listed at places in the text. -/
theorem lt_length_of_mem_brackets {entry : Char × Nat} (h : entry ∈ brackets cs) :
    entry.2 < cs.length := by
  simpa using List.snd_lt_of_mem_zipIdx (List.mem_of_mem_filter h)

theorem balance_append_left : balance (cs ++ ['(']) = balance cs + 1 := by
  simp [balance, List.count_append]
  omega

theorem balance_append_right : balance (cs ++ [')']) = balance cs - 1 := by
  simp [balance, List.count_append]
  omega

theorem balance_append_other (hleft : c ≠ '(') (hright : c ≠ ')') :
    balance (cs ++ [c]) = balance cs := by
  simp [balance, List.count_append, hleft, hright]

theorem run_append_of_isNumeric (h : isNumeric c = true) : run (cs ++ [c]) = run cs ++ [c] :=
  List.rtakeWhile_concat_pos _ _ _ h

theorem run_append_of_not_isNumeric (h : isNumeric c = false) : run (cs ++ [c]) = [] :=
  List.rtakeWhile_concat_neg _ _ _ (by simp [h])

end ExprLex.Text
