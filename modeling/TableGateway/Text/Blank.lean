/-
This file says which characters count as blank at the two ends of a text, and
trims them. The class is the Unicode `White_Space` property together with the
four information separators `U+001C`–`U+001F`. The zero-width space `U+200B` is
not in it.
-/

namespace TableGateway.Text

/-- Blank characters: Unicode `White_Space` and the information separators. -/
def isBlank (character : Char) : Bool :=
  let code := character.toNat
  (9 ≤ code && code ≤ 13) || (0x1C ≤ code && code ≤ 0x20) || code == 0x85 || code == 0xA0 ||
    code == 0x1680 || (0x2000 ≤ code && code ≤ 0x200A) || code == 0x2028 || code == 0x2029 ||
    code == 0x202F || code == 0x205F || code == 0x3000

/-- White space in the sense of Unicode: a blank that is no information separator. -/
def isWhiteSpace (character : Char) : Bool :=
  isBlank character && !(0x1C ≤ character.toNat && character.toNat ≤ 0x1F)

/-- The characters left once those of a class are dropped at both ends. -/
def trimBy (drops : Char → Bool) (characters : List Char) : List Char :=
  ((characters.dropWhile drops).reverse.dropWhile drops).reverse

/-- The characters left once the blanks at both ends are dropped. -/
def trimChars (characters : List Char) : List Char :=
  trimBy isBlank characters

/-- The text without the blanks at its two ends. -/
def trim (text : String) : String :=
  String.ofList (trimChars text.toList)

/-- Every character that core counts as white space is blank here. -/
theorem isBlank_of_isWhitespace (character : Char) (white : character.isWhitespace = true) :
    isBlank character = true := by
  simp only [Char.isWhitespace, Bool.or_eq_true, decide_eq_true_eq] at white
  rcases white with ((same | same) | same) | same <;> subst same <;> decide

/-! ### Joining -/

/-- The texts written one after another with a separator between neighbours. -/
def joinWith (separator : String) : List String → String
  | [] => ""
  | [only] => only
  | first :: second :: rest => first ++ separator ++ joinWith separator (second :: rest)

end TableGateway.Text
