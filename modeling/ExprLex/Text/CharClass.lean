import ExprLex.Text.Blank
import ExprLex.Text.Digit

/-!
# Character Classes

The classes of characters that an expression is made of, apart from its operators. A class holds
of a text as a whole when the text is not empty and all of its characters are in the class; the
point and the brackets are single characters.
-/

namespace ExprLex.Text

/-- A class of characters with a fixed meaning in expressions. -/
inductive CharClass where
  | digit
  | point
  | leftBracket
  | rightBracket
  | blank
  deriving DecidableEq

namespace CharClass

/-- All classes. -/
def all : List CharClass :=
  [.digit, .point, .leftBracket, .rightBracket, .blank]

/-- Whether a character is in the class. -/
def contains : CharClass → Char → Bool
  | .digit, c => isDigit c
  | .point, c => c == '.'
  | .leftBracket, c => c == '('
  | .rightBracket, c => c == ')'
  | .blank, c => isBlank c

/-- Whether a text as a whole is in the class. -/
def holds (kind : CharClass) (text : String) : Bool :=
  match kind, text.toList with
  | _, [] => false
  | .digit, cs => cs.all isDigit
  | .blank, cs => cs.all isBlank
  -- a point or a bracket is a single character
  | kind, [c] => kind.contains c
  | _, _ => false

end CharClass

end ExprLex.Text
