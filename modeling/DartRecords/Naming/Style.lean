import DartRecords.Naming.Words
import DartRecords.Text.Search

/-!
# Case styles

Bringing a name into another case style.  A name without words stays as it is.
-/

namespace DartRecords.Naming

/-- The case styles of names. -/
inductive Style where
  /-- `user_name` -/
  | lowerUnderscore
  /-- `userName` -/
  | lowerCamel
  /-- `UserName` -/
  | upperCamel
  /-- `USER_NAME` -/
  | upperUnderscore
  deriving DecidableEq, Repr

namespace Style

/-- All styles. -/
def all : List Style := [.lowerUnderscore, .lowerCamel, .upperCamel, .upperUnderscore]

/-- The name of a style, written in that style where possible. -/
def name : Style → String
  | .lowerUnderscore => "lower_underscore"
  | .lowerCamel => "lowerCamel"
  | .upperCamel => "UpperCamel"
  | .upperUnderscore => "UPPER_UNDERSCORE"

/-- The style of a name. -/
def ofName? (s : String) : Option Style := all.find? (·.name = s)

/-- Puts words, of which there is at least one, together in a style. -/
def assemble : Style → List (List Char) → List Char
  | .lowerUnderscore, words => Text.joinWith ['_'] words
  | .upperUnderscore, words => Text.upper (Text.joinWith ['_'] words)
  | .lowerCamel, [] => []
  | .lowerCamel, word :: rest => word ++ rest.flatMap Text.capitalize
  | .upperCamel, words => words.flatMap Text.capitalize

end Style

/-- Brings a name into a style. -/
def restyle (style : Style) (name : List Char) : List Char :=
  match splitWords name with
  | [] => name
  | words => style.assemble words

end DartRecords.Naming
