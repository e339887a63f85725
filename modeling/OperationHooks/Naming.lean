import OperationHooks.Text.Case
import OperationHooks.Text.Shorter
import OperationHooks.Text.Split

/-!
# Names of generated constants

A GraphQL name is cut into words, written in small letters with underscores between them
(`snake`), and put together again with a capital for each word (`pascal`). Letters outside ASCII
never start a word, but they do have a case.
-/

namespace OperationHooks

namespace Naming

/-! ### Words -/

/-- An underscore goes before each capital that a small letter follows, unless the capital starts
the text or a line. The search goes on behind the small letters. -/
def splitCapitalized (cs : List Char) : List Char :=
  match cs with
  | c :: u :: l :: r =>
    if c ≠ '\n' ∧ u.isUpper ∧ l.isLower then
      c :: '_' :: u :: l :: (r.takeWhile Char.isLower
        ++ splitCapitalized (r.dropWhile Char.isLower))
    else c :: splitCapitalized (u :: l :: r)
  | cs => cs
termination_by cs.length
decreasing_by
  · have := length_dropWhile_le Char.isLower r
    simp only [List.length_cons]
    omega
  · simp

/-- An underscore goes between a small letter or a digit and a capital. -/
def splitCamel : List Char → List Char
  | c :: d :: r =>
    if (c.isLower || c.isDigit) && d.isUpper then c :: '_' :: splitCamel (d :: r)
    else c :: splitCamel (d :: r)
  | cs => cs

/-- A name in small letters, words separated by underscores. -/
def snakeChars (cs : List Char) : List Char := lower (splitCamel (splitCapitalized cs))

/-- A name with a capital for each word and no underscores. -/
def pascalChars (cs : List Char) : List Char :=
  (splitAtChar '_' (snakeChars cs)).flatMap capitalize

/-! ### Names -/

/-- A name in small letters, words separated by underscores. -/
def snake (name : String) : String := String.ofList (snakeChars name.toList)

/-- A name with a capital for each word and no underscores. -/
def pascal (name : String) : String := String.ofList (pascalChars name.toList)

/-- The name of a constant: only the name itself is converted, not what is put around it. -/
def affixed (before name after : String) : String := before ++ pascal name ++ after

end Naming

end OperationHooks
