import KotlinFakes.JsonText.Token

/-!
# JSON values

The value that a JSON text denotes, with everything kept that a reader may care about: the order and
repetition of keys, the digits of numbers, and strings that have no content.
-/

namespace KotlinFakes.JsonText

/-- A value. -/
inductive Value where
  | null
  | bool (value : Bool)
  | number (value : Number)
  | string (content : Option String)
  | array (items : List Value)
  | object (entries : List (Option String × Value))
  deriving Repr

namespace Value

mutual
/-- How deep arrays and objects are nested in a value. -/
def depth : Value → Nat
  | .array items => depthOfItems items + 1
  | .object entries => depthOfEntries entries + 1
  | .null | .bool _ | .number _ | .string _ => 0
def depthOfItems : List Value → Nat
  | [] => 0
  | item :: items => max item.depth (depthOfItems items)
/-- The greatest depth of the values in a list of entries. -/
def depthOfEntries : List (Option String × Value) → Nat
  | [] => 0
  | (_, value) :: entries => max value.depth (depthOfEntries entries)
end

mutual
/-- Whether every string of a value, keys included, has content and every number fits a double. -/
def isRegular : Value → Bool
  | .null | .bool _ => true
  | .number n => n.isFinite
  | .string content => content.isSome
  | .array items => areRegular items
  | .object entries => haveRegular entries
def areRegular : List Value → Bool
  | [] => true
  | item :: items => item.isRegular && areRegular items
def haveRegular : List (Option String × Value) → Bool
  | [] => true
  | (key, value) :: entries => key.isSome && value.isRegular && haveRegular entries
end

end Value

mutual
/-- Read a value. The tokens that are not read are handed back, and each part takes one unit of
    fuel. -/
def parseValue : (fuel : Nat) → List Token → Option (Value × List Token)
  | 0, _ => none
  | fuel + 1, tokens =>
    match tokens with
    | .null :: rest => some (.null, rest)
    | .bool value :: rest => some (.bool value, rest)
    | .number value :: rest => some (.number value, rest)
    | .string content :: rest => some (.string content, rest)
    | .leftBracket :: .rightBracket :: rest => some (.array [], rest)
    | .leftBracket :: rest => do
      let (items, rest) ← parseItems fuel rest
      return (.array items, rest)
    | .leftBrace :: .rightBrace :: rest => some (.object [], rest)
    | .leftBrace :: rest => do
      let (entries, rest) ← parseEntries fuel rest
      return (.object entries, rest)
    | _ => none
/-- Read one or more items up to the closing bracket. -/
def parseItems : (fuel : Nat) → List Token → Option (List Value × List Token)
  | 0, _ => none
  | fuel + 1, tokens => do
    let (item, rest) ← parseValue fuel tokens
    match rest with
    | .comma :: rest => do
      let (items, rest) ← parseItems fuel rest
      return (item :: items, rest)
    | .rightBracket :: rest => return ([item], rest)
    | _ => none
/-- Read one or more entries up to the closing brace. -/
def parseEntries : (fuel : Nat) → List Token → Option (List (Option String × Value) × List Token)
  | 0, _ => none
  | fuel + 1, tokens =>
    match tokens with
    | .string key :: .colon :: rest => do
      let (value, rest) ← parseValue fuel rest
      match rest with
      | .comma :: rest => do
        let (entries, rest) ← parseEntries fuel rest
        return ((key, value) :: entries, rest)
      | .rightBrace :: rest => return ([(key, value)], rest)
      | _ => none
    | _ => none
end

/-- Read a list of tokens as one value. A part begins at most once before each token and once after
    a bracket or comma. -/
def parseTokens (tokens : List Token) : Option Value :=
  match parseValue (2 * tokens.length + 1) tokens with
  | some (value, []) => some value
  | _ => none

/-- The value that a text denotes, if it is JSON. -/
def parse (text : String) : Option Value := do
  let tokens ← scan text.toList
  parseTokens tokens

end KotlinFakes.JsonText
