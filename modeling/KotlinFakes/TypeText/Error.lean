/-!
# Errors in type texts

What can be wrong with the text of a type, and the byte at which it was noticed.
-/

namespace KotlinFakes.TypeText

/-- What is wrong with the text of a type. -/
inductive Cause where
  /-- A character that begins no token. -/
  | unexpectedCharacter (c : Char)
  /-- A minus sign or a parameter list without the arrow that must follow. -/
  | missingArrow
  /-- Parentheses around anything but one type, and no arrow after them. -/
  | noParameterList
  /-- Something else where a type should begin. -/
  | missingName
  /-- A parameter list that neither goes on nor ends. -/
  | openParameters
  /-- A list of type arguments that neither goes on nor ends. -/
  | openArguments
  /-- A type argument with a variance of its own. -/
  | variance
  /-- A type parameter with type arguments. -/
  | appliedParam (name : String)
  /-- More text after the type. -/
  | trailing
  deriving Repr, DecidableEq

def Cause.message : Cause → String
  | .unexpectedCharacter c => "unexpected character `" ++ String.singleton c ++ "`"
  | .missingArrow => "expected `->`"
  | .noParameterList => "expected `->` after a parameter list"
  | .missingName => "expected a type name"
  | .openParameters => "expected `,` or `)`"
  | .openArguments => "expected `,` or `>`"
  | .variance => "use-site variance is not supported"
  | .appliedParam name => "type parameter `" ++ name ++ "` cannot take type arguments"
  | .trailing => "unexpected trailing input"

/-- An error with the byte offset at which it was noticed. -/
structure Error where
  cause : Cause
  offset : Nat
  deriving Repr, DecidableEq

def Error.message (e : Error) : String := e.cause.message ++ " at offset " ++ toString e.offset

end KotlinFakes.TypeText
