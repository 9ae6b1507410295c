import KotlinFakes.Text.Alphabetic
import KotlinFakes.Text.LetterCase

/-!
# Identifiers

What can be written as a Kotlin name, and how it is written: the hard keywords of the language are
names only between backquotes.
-/

namespace KotlinFakes.Identifier

/-- The words of the language that are no names unless they are quoted. -/
def hardKeywords : List String :=
  ["as", "break", "class", "continue", "do", "else", "false", "for", "fun", "if", "in",
    "interface", "is", "null", "object", "package", "return", "super", "this", "throw", "true",
    "try", "typealias", "typeof", "val", "var", "when", "while"]

/-- A name as it is written in a file: a hard keyword stands between backquotes. -/
def quoted (name : String) : String :=
  if hardKeywords.contains name then "`" ++ name ++ "`" else name

/-- Whether a character may begin a name. -/
def mayStart (c : Char) : Bool := Text.isAlphabetic c || c = '_'

/-- Whether a character may follow in a name. -/
def mayFollow (c : Char) : Bool := Text.isAlphanumeric c || c = '_'

/-- Whether a text can be written as a name, quoted or not. -/
def isValid (name : String) : Bool :=
  match name.toList with
  | [] => false
  | c :: rest => mayStart c && rest.all mayFollow

/-- A text with its first character in upper case. -/
def capitalized (name : String) : String :=
  match name.toList with
  | [] => ""
  | c :: rest => String.ofList (Text.upperCase c ++ rest)

end KotlinFakes.Identifier
