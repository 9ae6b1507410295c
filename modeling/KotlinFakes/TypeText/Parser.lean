import KotlinFakes.TypeRef
import KotlinFakes.TypeText.Scope
import KotlinFakes.TypeText.Token

/-!
# Parsing type texts

The grammar of types, with names resolved in a scope on the way:

    type   := ["suspend"] params "->" type | "(" param ")" ["?"] | "*"
            | name ["<" type ("," type)* ">"] ["?"]
    params := "(" [param ("," param)*] ")"
    param  := [word ":"] type
    name   := word ("." word)*

Labels of parameters are dropped.
-/

namespace KotlinFakes.TypeText

/-- An error at the next token, or at the end of the text if there is none. -/
def errorAt {α : Type} (stop : Nat) (tokens : List Located) (cause : Cause) : Except Error α :=
  .error ⟨cause, match tokens with
    | [] => stop
    | t :: _ => t.offset⟩

def next? (tokens : List Located) : Option Token := tokens.head?.map Located.token

/-- The segments of a name after its first. -/
def nameTail (stop : Nat) : List Located → Except Error (List String × List Located)
  | ⟨.dot, _⟩ :: ⟨.word name, _⟩ :: rest => do
    let (names, rest) ← nameTail stop rest
    return (name :: names, rest)
  | ⟨.dot, _⟩ :: rest => errorAt stop rest .missingName
  | tokens => .ok ([], tokens)

/-- A type that is marked nullable if a question mark follows. -/
def withMark (t : TypeRef) : List Located → TypeRef × List Located
  | ⟨.question, _⟩ :: rest => (t.orNull, rest)
  | tokens => (t, tokens)

/-- The tokens without the label of a parameter. -/
def dropLabel : List Located → List Located
  | ⟨.word _, _⟩ :: ⟨.colon, _⟩ :: rest => rest
  | tokens => tokens

/-- Whether the tokens begin with a suspending function type. -/
def startsSuspend : List Located → Bool
  | ⟨.word name, _⟩ :: ⟨.leftParen, _⟩ :: _ => name = "suspend"
  | _ => false

/-- Whether the tokens begin with a variance that has a type behind it. -/
def startsVariance : List Located → Bool
  | ⟨.word name, _⟩ :: ⟨.word _, _⟩ :: _ => name = "out" || name = "in"
  | ⟨.word name, _⟩ :: ⟨.leftParen, _⟩ :: _ => name = "out" || name = "in"
  | _ => false

/-- A name with its arguments, if nothing is wrong with it. -/
def applied (scope : Scope) (offset : Nat) (written : String) (args : List TypeRef) :
    Except Error TypeRef :=
  if scope.isTypeParam written then
    if args.isEmpty then .ok (.ofParam written false)
    else .error ⟨.appliedParam written, offset⟩
  else .ok (.ofClass (scope.resolveClass written) args false)

mutual
/-- Read a type. The tokens that are not read are handed back, and each part takes one unit of
    fuel. -/
def parseType (scope : Scope) (stop : Nat) :
    (fuel : Nat) → List Located → Except Error (TypeRef × List Located)
  | 0, tokens => errorAt stop tokens .missingName
  | fuel + 1, tokens =>
    if startsSuspend tokens then do
      let (params, rest) ← parseParams scope stop fuel (tokens.drop 2)
      parseResult scope stop fuel params true rest
    else if startsVariance tokens then errorAt stop tokens .variance
    else
      match tokens with
      | ⟨.leftParen, _⟩ :: rest => do
        let (params, rest) ← parseParams scope stop fuel rest
        if next? rest = some .arrow then parseResult scope stop fuel params false rest
        else
          match params with
          | [inner] => return withMark inner rest
          | _ => errorAt stop rest .noParameterList
      | ⟨.star, _⟩ :: rest => .ok (.star, rest)
      | ⟨.word name, offset⟩ :: rest => do
        let (names, rest) ← nameTail stop rest
        let written := Text.joinWith "." (name :: names)
        let (args, rest) ←
          match rest with
          | ⟨.leftAngle, _⟩ :: rest => parseArguments scope stop fuel rest
          | rest => .ok ([], rest)
        let t ← applied scope offset written args
        return withMark t rest
      | tokens => errorAt stop tokens .missingName
/-- Read the arrow and the result of a function type. -/
def parseResult (scope : Scope) (stop : Nat) :
    (fuel : Nat) → List TypeRef → Bool → List Located →
      Except Error (TypeRef × List Located)
  | 0, _, _, tokens => errorAt stop tokens .missingName
  | fuel + 1, params, isSuspend, tokens =>
    match tokens with
    | ⟨.arrow, _⟩ :: rest => do
      let (result, rest) ← parseType scope stop fuel rest
      return (.ofFunction params result isSuspend false, rest)
    | tokens => errorAt stop tokens .missingArrow
/-- Read a parameter list after its opening parenthesis. -/
def parseParams (scope : Scope) (stop : Nat) :
    (fuel : Nat) → List Located → Except Error (List TypeRef × List Located)
  | 0, tokens => errorAt stop tokens .missingName
  | fuel + 1, tokens =>
    match tokens with
    | ⟨.rightParen, _⟩ :: rest => .ok ([], rest)
    | tokens => parseParamList scope stop fuel tokens
/-- Read one or more parameters up to the closing parenthesis. -/
def parseParamList (scope : Scope) (stop : Nat) :
    (fuel : Nat) → List Located → Except Error (List TypeRef × List Located)
  | 0, tokens => errorAt stop tokens .missingName
  | fuel + 1, tokens => do
    let (param, rest) ← parseType scope stop fuel (dropLabel tokens)
    match rest with
    | ⟨.comma, _⟩ :: rest => do
      let (params, rest) ← parseParamList scope stop fuel rest
      return (param :: params, rest)
    | ⟨.rightParen, _⟩ :: rest => return ([param], rest)
    | rest => errorAt stop rest .openParameters
/-- Read one or more type arguments up to the closing angle bracket. -/
def parseArguments (scope : Scope) (stop : Nat) :
    (fuel : Nat) → List Located → Except Error (List TypeRef × List Located)
  | 0, tokens => errorAt stop tokens .missingName
  | fuel + 1, tokens => do
    let (arg, rest) ← parseType scope stop fuel tokens
    match rest with
    | ⟨.comma, _⟩ :: rest => do
      let (args, rest) ← parseArguments scope stop fuel rest
      return (arg :: args, rest)
    | ⟨.rightAngle, _⟩ :: rest => return ([arg], rest)
    | rest => errorAt stop rest .openArguments
end

/-- Fuel for a list of tokens. Between two tokens that are consumed at most three parts begin. -/
def enoughFuel (tokens : List Located) : Nat := 3 * tokens.length + 3

/-- Read a list of tokens as one type; the text ends at byte `stop`. -/
def parseTokens (scope : Scope) (stop : Nat) (tokens : List Located) : Except Error TypeRef := do
  let (t, rest) ← parseType scope stop (enoughFuel tokens) tokens
  if rest.isEmpty then return t else errorAt stop rest .trailing

def parse (scope : Scope) (text : String) : Except Error TypeRef := do
  let tokens ← scan 0 text.toList
  parseTokens scope text.utf8ByteSize tokens

end KotlinFakes.TypeText
