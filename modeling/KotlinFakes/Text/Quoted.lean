/-!
# String literals

The text of a Kotlin string literal. A backslash, a quote, a dollar sign and a line feed are escaped,
so a literal ends where it should and interpolates nothing.
-/

namespace KotlinFakes.Text.Quoted

/-- What stands for a character between the quotes. -/
def escape (c : Char) : List Char :=
  if c = '\\' then ['\\', '\\']
  else if c = '"' then ['\\', '"']
  else if c = '$' then ['\\', '$']
  else if c = '\n' then ['\\', 'n']
  else [c]

/-- What stands between the quotes. -/
def encode (text : List Char) : List Char := text.flatMap escape

def literal (text : String) : String :=
  "\"" ++ String.ofList (encode text.toList) ++ "\""

end KotlinFakes.Text.Quoted
