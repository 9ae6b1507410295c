import KotlinFakes.Identifier
import KotlinFakes.Text.Blank
import KotlinFakes.TypeText.Error

/-!
# Tokens of type texts

A type text is read as a sequence of words and marks, each with the byte at which it starts. Blanks
separate tokens and are dropped.
-/

namespace KotlinFakes.TypeText

/-- A token. -/
inductive Token where
  | word (name : String)
  | leftParen
  | rightParen
  | leftAngle
  | rightAngle
  | comma
  | colon
  | dot
  | arrow
  | question
  | star
  deriving Repr, DecidableEq

/-- A token with the byte at which it starts. -/
structure Located where
  token : Token
  offset : Nat
  deriving Repr, DecidableEq

/-- The token that a character is by itself. -/
def mark? (c : Char) : Option Token :=
  if c = '(' then some .leftParen
  else if c = ')' then some .rightParen
  else if c = '<' then some .leftAngle
  else if c = '>' then some .rightAngle
  else if c = ',' then some .comma
  else if c = ':' then some .colon
  else if c = '.' then some .dot
  else if c = '?' then some .question
  else if c = '*' then some .star
  else none

/-- How many bytes the characters of a text take. -/
def byteLength : List Char → Nat
  | [] => 0
  | c :: rest => c.utf8Size + byteLength rest

theorem length_dropWhile_le (p : Char → Bool) (text : List Char) :
    (text.dropWhile p).length ≤ text.length :=
  (List.dropWhile_suffix p).length_le

/-- The tokens of a text that starts at the given byte. -/
def scan (offset : Nat) : List Char → Except Error (List Located)
  | [] => .ok []
  | c :: rest =>
    if Text.isBlank c then scan (offset + c.utf8Size) rest
    else
      match mark? c with
      | some token => do
        let tokens ← scan (offset + c.utf8Size) rest
        return ⟨token, offset⟩ :: tokens
      | none =>
        if c = '-' then
          match rest with
          | '>' :: more => do
            let tokens ← scan (offset + 2) more
            return ⟨.arrow, offset⟩ :: tokens
          | _ => .error ⟨.missingArrow, offset⟩
        else if Identifier.mayStart c then do
          have := length_dropWhile_le Identifier.mayFollow rest
          let word := c :: rest.takeWhile Identifier.mayFollow
          let tokens ← scan (offset + byteLength word) (rest.dropWhile Identifier.mayFollow)
          return ⟨.word (String.ofList word), offset⟩ :: tokens
        else .error ⟨.unexpectedCharacter c, offset⟩
  termination_by text => text.length
  decreasing_by
    all_goals simp_wf
    all_goals omega

end KotlinFakes.TypeText
