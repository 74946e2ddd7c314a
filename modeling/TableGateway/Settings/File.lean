/-
This file reads settings files: names, each with an equals sign and a value or with
nothing. A value in quotes may go on over several lines and has escapes; one without ends
with its line, or before a hash that follows a blank. What does not fit is skipped up to
the end of its line. Every way to read a part says where the reading stopped, so a
failed one says from where on to skip.
-/

import TableGateway.Text.Blank

namespace TableGateway.Settings

open Text

/-- A name in a settings file, and the characters of its value if it has one. -/
structure Assignment where
  name : String
  value : Option (List Char)
  deriving DecidableEq, Repr

/-- What reading a part gives, or the characters where nothing fits. -/
abbrev Scan := Except (List Char)

/-! ### Lines -/

/-- A text in which every line ends with a line feed alone. -/
def withLineFeeds : List Char → List Char
  | [] => []
  | '\r' :: '\n' :: rest => '\n' :: withLineFeeds rest
  | '\r' :: rest => '\n' :: withLineFeeds rest
  | character :: rest => character :: withLineFeeds rest

/-- Whether a character is blank within a line. -/
def isGap (character : Char) : Bool :=
  isBlank character && character != '\n'

/-- What a line goes on with after blanks. -/
def skipGap (characters : List Char) : List Char :=
  characters.dropWhile isGap

/-- The rest of a line. -/
def lineOf (characters : List Char) : List Char :=
  characters.takeWhile (· != '\n')

/-- What follows the rest of a line, from its end on. -/
def afterLine (characters : List Char) : List Char :=
  characters.dropWhile (· != '\n')

/-- The end of a line, behind a comment if there is one. -/
def scanEnd (characters : List Char) : Scan (List Char) :=
  let rest := skipGap characters
  match if rest.head? == some '#' then afterLine rest else rest with
  | [] => .ok []
  | '\n' :: rest => .ok rest
  | rest => .error rest

/-! ### Names -/

/-- The word that may stand before a name. -/
def exportWord : List Char := "export".toList

/-- What follows the word before a name and its blanks; without them, the text as it is. -/
def skipExport (characters : List Char) : List Char :=
  let rest := characters.drop exportWord.length
  if exportWord.isPrefixOf characters && (rest.head?.map isGap).getD false then skipGap rest
  else characters

/-- Whether a character can be part of a name without quotes. -/
def isNameCharacter (character : Char) : Bool :=
  character != '=' && character != '#' && !isBlank character

/-- A run of characters as a name. It may not be empty. -/
def nameOf (run : List Char) (rest characters : List Char) : Scan (Option String × List Char) :=
  if run.isEmpty then .error characters else .ok (some (String.ofList run), rest)

/-- A name, in single quotes or without; where a comment begins there is none. -/
def scanName (characters : List Char) : Scan (Option String × List Char) :=
  match characters with
  | '#' :: _ => .ok (none, characters)
  | '\x27' :: rest =>
    match rest.dropWhile (· != '\x27') with
    | _ :: after => nameOf (rest.takeWhile (· != '\x27')) after characters
    | [] => .error characters
  | characters =>
    nameOf (characters.takeWhile isNameCharacter) (characters.dropWhile isNameCharacter) characters

/-! ### Values -/

/-- What is in front of the first quote that does not follow a backslash, and what is behind it. -/
def splitAtPlain (quote : Char) (escaped : Bool) : List Char → Option (List Char × List Char)
  | [] => none
  | character :: rest =>
    if character == quote && !escaped then some ([], rest)
    else
      (splitAtPlain quote (character == '\\') rest).map fun (before, after) =>
        (character :: before, after)

/-- What is in front of the last quote, and what is behind it. -/
def splitAtLast (quote : Char) (characters : List Char) : Option (List Char × List Char) :=
  let reversed := characters.reverse
  match reversed.dropWhile (· != quote) with
  | _ :: before => some (before.reverse, (reversed.takeWhile (· != quote)).reverse)
  | [] => none

/-- The character that a letter after a backslash stands for: in single quotes a quote and a
backslash stand for themselves, in double quotes some letters name control characters too. -/
def escapeOf? (quote mark : Char) : Option Char :=
  if mark == '\\' || mark == '\x27' then some mark
  else if quote == '\x27' then none
  else match mark with
    | '\x22' => some '\x22'
    | 'a' => some '\x07'
    | 'b' => some '\x08'
    | 'f' => some '\x0c'
    | 'n' => some '\n'
    | 'r' => some '\r'
    | 't' => some '\t'
    | 'v' => some '\x0b'
    | _ => none

/-- The characters between quotes with the escapes resolved; a backslash that begins none stays. -/
def unescape (quote : Char) : List Char → List Char
  | '\\' :: mark :: rest =>
    match escapeOf? quote mark with
    | some character => character :: unescape quote rest
    | none => '\\' :: unescape quote (mark :: rest)
  | character :: rest => character :: unescape quote rest
  | [] => []

/-- A value in quotes, from behind its opening quote on. Where every quote follows a backslash the
last one closes the value. -/
def scanQuoted (quote : Char) (rest : List Char) : Scan (List Char × List Char) :=
  match (splitAtPlain quote false rest).or (splitAtLast quote rest) with
  | some (inner, after) => .ok (unescape quote inner, after)
  | none => .error (quote :: rest)

/-- The characters before a comment: a hash after a blank begins one. -/
def beforeComment : List Char → List Char
  | [] => []
  | first :: rest =>
    if isBlank first && (rest.dropWhile isBlank).head? == some '#' then []
    else first :: beforeComment rest

/-- A value, from behind the equals sign on. -/
def scanValue (characters : List Char) : Scan (List Char × List Char) :=
  match skipGap characters with
  | '\x27' :: rest => scanQuoted '\x27' rest
  | '\x22' :: rest => scanQuoted '\x22' rest
  | _ => .ok (trimChars (beforeComment (lineOf characters)), afterLine characters)

/-- An equals sign with a value, or nothing. -/
def scanValue? (characters : List Char) : Scan (Option (List Char) × List Char) :=
  match skipGap characters with
  | '=' :: rest => do
    let (value, rest) ← scanValue rest
    return (some value, rest)
  | rest => .ok (none, rest)

/-! ### Files -/

/-- An assignment with the end of its line, or a comment on a line of its own. -/
def scanAssignment (characters : List Char) : Scan (Option Assignment × List Char) := do
  let (name, rest) ← scanName (skipExport characters)
  let (value, rest) ← scanValue? rest
  let rest ← scanEnd rest
  return (name.map fun name => ⟨name, value⟩, rest)

/-- The assignments of a text, in order. -/
def assignmentsOf (characters : List Char) : List Assignment :=
  match characters.dropWhile isBlank with
  | [] => []
  | first :: begun =>
    let (found, rest) := match scanAssignment (first :: begun) with
      | .ok (found, rest) => (found.toList, rest)
      | .error stopped => ([], (afterLine stopped).drop 1)
    found ++ (if rest.length < characters.length then assignmentsOf rest else [])
termination_by characters.length

/-- The assignments of a settings file. -/
def readFile (text : String) : List Assignment :=
  assignmentsOf (withLineFeeds text.toList)

end TableGateway.Settings
