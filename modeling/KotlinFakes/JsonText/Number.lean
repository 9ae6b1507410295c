/-!
# Number literals

The number literals of JSON, kept digit by digit. A literal is a natural number if it is written
without sign, fraction and exponent; any literal is too large or fits a double.
-/

namespace KotlinFakes.JsonText

/-- A number literal. The fraction and the exponent may be missing. -/
structure Number where
  isNegative : Bool
  whole : List Nat
  fraction : List Nat
  exponent : Option Int
  deriving Repr, DecidableEq

/-- The number that decimal digits stand for. -/
def ofDigits (digits : List Nat) : Nat := digits.foldl (fun n d => 10 * n + d) 0

def digit? (c : Char) : Option Nat := if c.isDigit then some (c.toNat - '0'.toNat) else none

/-- The digits at the start of a text, and what follows them. -/
def takeDigits : List Char → List Nat × List Char
  | [] => ([], [])
  | c :: rest =>
    match digit? c with
    | some d => let (ds, rest) := takeDigits rest; (d :: ds, rest)
    | none => ([], c :: rest)

namespace Number

/-- The digits before the point. A zero stands alone. -/
def readWhole (text : List Char) : Option (List Nat × List Char) :=
  match takeDigits text with
  | ([], _) => none
  | (0 :: _ :: _, _) => none
  | (digits, rest) => some (digits, rest)

/-- The point and the digits behind it, if there is a point. -/
def readFraction : List Char → Option (List Nat × List Char)
  | '.' :: rest =>
    match takeDigits rest with
    | ([], _) => none
    | (digits, rest) => some (digits, rest)
  | text => some ([], text)

/-- The digits of an exponent, which must not be missing. -/
def readPower (isNegative : Bool) (text : List Char) : Option (Option Int × List Char) :=
  match takeDigits text with
  | ([], _) => none
  | (digits, rest) =>
    let n : Int := ofDigits digits
    some (some (if isNegative then -n else n), rest)

/-- The exponent with its sign, if there is one. -/
def readExponent : List Char → Option (Option Int × List Char)
  | c :: rest =>
    if c = 'e' || c = 'E' then
      match rest with
      | '+' :: rest => readPower false rest
      | '-' :: rest => readPower true rest
      | rest => readPower false rest
    else some (none, c :: rest)
  | [] => some (none, [])

/-- A literal without its sign. -/
def readUnsigned (isNegative : Bool) (text : List Char) : Option (Number × List Char) := do
  let (whole, rest) ← readWhole text
  let (fraction, rest) ← readFraction rest
  let (exponent, rest) ← readExponent rest
  return (⟨isNegative, whole, fraction, exponent⟩, rest)

/-- The literal at the start of a text, and what follows it. -/
def read : List Char → Option (Number × List Char)
  | '-' :: rest => readUnsigned true rest
  | text => readUnsigned false text

/-- The least natural number that does not fit into 64 bits. -/
def wordLimit : Nat := 0x10000000000000000

/-- The natural number that a literal is, if it is one of 64 bits. -/
def natural? (n : Number) : Option Nat :=
  let value := ofDigits n.whole
  if !n.isNegative && n.fraction.isEmpty && n.exponent.isNone && value < wordLimit then some value
  else none

/-- The nearest number with at most the given count of significant bits. A tie goes to the even
    one. -/
def roundedTo (bits n : Nat) : Nat :=
  let unit := Nat.pow 2 (n.log2 + 1 - bits)
  let quotient := n / unit
  let rest := n % unit
  if 2 * rest > unit || (2 * rest = unit && quotient % 2 = 1) then (quotient + 1) * unit
  else quotient * unit

/-- Append digits to a number as long as it keeps to 64 bits, and count the digits left over. -/
def gather (n : Nat) : List Nat → Nat × Nat
  | [] => (n, 0)
  | d :: ds => if 10 * n + d < wordLimit then gather (10 * n + d) ds else (n, ds.length + 1)

/-- The leading digits of a literal and the power of ten that they are scaled by. -/
def scaled (n : Number) : Nat × Int :=
  let (whole, left) := gather 0 n.whole
  let (significand, unread) := gather whole n.fraction
  (significand, (left : Int) - ((n.fraction.length : Int) - unread) + n.exponent.getD 0)

/-- The least number that is rounded to infinity in double precision. -/
def overflow : Nat := Nat.pow 2 1024 - Nat.pow 2 970

/-- Whether a literal fits a double. Its leading digits and its power of ten are rounded to doubles,
    and so is their product. -/
def isFinite (n : Number) : Bool :=
  let (significand, power) := n.scaled
  significand = 0 || power < 0 ||
    (power ≤ 308 && roundedTo 53 significand * roundedTo 53 (Nat.pow 10 power.toNat) < overflow)

end Number

end KotlinFakes.JsonText
