import KotlinFakes.JsonText.Number

/-!
# Tokens of JSON texts

Brackets, marks, words, numbers and strings. A string may hold an escape for half of a surrogate
pair, which no text can have: the token of such a string has no content.
-/

namespace KotlinFakes.JsonText

/-- A token. -/
inductive Token where
  | leftBrace
  | rightBrace
  | leftBracket
  | rightBracket
  | comma
  | colon
  | null
  | bool (value : Bool)
  | number (value : Number)
  /-- A string; without content if one of its escapes stands for no character. -/
  | string (content : Option String)
  deriving Repr, DecidableEq

/-- The value of a hexadecimal digit. -/
def hexDigit? (c : Char) : Option Nat :=
  if c.isDigit then some (c.toNat - '0'.toNat)
  else if 'a' ≤ c ∧ c ≤ 'f' then some (c.toNat - 'a'.toNat + 10)
  else if 'A' ≤ c ∧ c ≤ 'F' then some (c.toNat - 'A'.toNat + 10)
  else none

/-- The number of four hexadecimal digits. -/
def hexUnit? (a b c d : Char) : Option Nat := do
  return (((← hexDigit? a) * 16 + (← hexDigit? b)) * 16 + (← hexDigit? c)) * 16 + (← hexDigit? d)

/-- The character that an escape of one letter stands for. -/
def escape? (c : Char) : Option Char :=
  match c with
  | '"' | '\\' | '/' => some c
  | 'b' => some '\x08'
  | 'f' => some '\x0c'
  | 'n' => some '\n'
  | 'r' => some '\r'
  | 't' => some '\t'
  | _ => none

/-- One element of a string: a character, or a unit of 16 bits that was written as an escape. -/
inductive Element where
  | char (c : Char)
  | unit (n : Nat)
  deriving Repr, DecidableEq

/-- The elements of a string up to its closing quote, and what follows it. -/
def readElements : List Char → Option (List Element × List Char)
  | '"' :: rest => some ([], rest)
  | '\\' :: 'u' :: a :: b :: c :: d :: rest => do
    let n ← hexUnit? a b c d
    let (elements, rest) ← readElements rest
    return (.unit n :: elements, rest)
  | '\\' :: c :: rest => do
    let c ← escape? c
    let (elements, rest) ← readElements rest
    return (.char c :: elements, rest)
  | c :: rest =>
    if c.toNat < 0x20 then none
    else do
      let (elements, rest) ← readElements rest
      return (.char c :: elements, rest)
  | [] => none

/-- Whether a unit is the first half of a surrogate pair. -/
def isHigh (n : Nat) : Bool := 0xD800 ≤ n && n ≤ 0xDBFF

/-- Whether a unit is the second half of a surrogate pair. -/
def isLow (n : Nat) : Bool := 0xDC00 ≤ n && n ≤ 0xDFFF

/-- The character of a surrogate pair. -/
def ofPair (high low : Nat) : Char := .ofNat (0x10000 + (high - 0xD800) * 0x400 + (low - 0xDC00))

/-- The characters that elements stand for; none if half of a pair stands alone. -/
def decode : List Element → Option (List Char)
  | [] => some []
  | .char c :: rest => (decode rest).map (c :: ·)
  | .unit high :: .unit low :: rest =>
    if isHigh high then
      if isLow low then (decode rest).map (ofPair high low :: ·) else none
    else if isLow high then none
    else (decode (.unit low :: rest)).map (.ofNat high :: ·)
  | .unit n :: rest =>
    if isHigh n || isLow n then none else (decode rest).map (.ofNat n :: ·)

/-- The token that a character is by itself. -/
def mark? (c : Char) : Option Token :=
  match c with
  | '{' => some .leftBrace
  | '}' => some .rightBrace
  | '[' => some .leftBracket
  | ']' => some .rightBracket
  | ',' => some .comma
  | ':' => some .colon
  | _ => none

/-- Whether a character separates tokens. -/
def isSpace (c : Char) : Bool := c = ' ' || c = '\n' || c = '\t' || c = '\r'

/-- The token at the start of a text without spaces before it, and what follows it. -/
def readToken (text : List Char) : Option (Token × List Char) :=
  match text with
  | [] => none
  | 'n' :: 'u' :: 'l' :: 'l' :: rest => some (.null, rest)
  | 't' :: 'r' :: 'u' :: 'e' :: rest => some (.bool true, rest)
  | 'f' :: 'a' :: 'l' :: 's' :: 'e' :: rest => some (.bool false, rest)
  | '"' :: rest =>
    (readElements rest).map fun (elements, rest) =>
      (.string ((decode elements).map String.ofList), rest)
  | c :: rest =>
    match mark? c with
    | some token => some (token, rest)
    | none => (Number.read text).map fun (n, rest) => (.number n, rest)

/-- The tokens of a text. Each takes one unit of fuel, and so does each space. -/
def scanWith : (fuel : Nat) → List Char → Option (List Token)
  | _, [] => some []
  | 0, _ :: _ => none
  | fuel + 1, c :: rest =>
    if isSpace c then scanWith fuel rest
    else do
      let (token, rest) ← readToken (c :: rest)
      let tokens ← scanWith fuel rest
      return token :: tokens

def scan (text : List Char) : Option (List Token) := scanWith text.length text

end KotlinFakes.JsonText
