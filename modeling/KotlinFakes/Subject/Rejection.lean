import KotlinFakes.Diagnostic.Basic
import KotlinFakes.Subject.Basic

/-!
# Rejected subjects

Why a subject has no blueprint. Some subjects cannot be faked at all and are passed over; a member
without a type is an error.
-/

namespace KotlinFakes

/-- Why a subject has no blueprint. -/
inductive Rejection where
  /-- The shape can be neither implemented nor extended. -/
  | unsupportedShape (declaration : String) (shape : Shape)
  /-- The class cannot be constructed without arguments. -/
  | requiresArguments (declaration : String) (count : Nat)
  /-- A property has neither a getter type nor a field type. -/
  | untypedProperty (declaration property : String)
  deriving Repr, DecidableEq

namespace Rejection

def code : Rejection → Code
  | .unsupportedShape .. | .requiresArguments .. => .unsupportedShape
  | .untypedProperty .. => .missingType

/-- Whether the subject is passed over; else its generation fails. -/
def isSkip (r : Rejection) : Bool := r.code = .unsupportedShape

def declaration : Rejection → String
  | .unsupportedShape declaration _ | .requiresArguments declaration _
  | .untypedProperty declaration _ => declaration

def message : Rejection → String
  | .unsupportedShape declaration shape =>
    "`" ++ declaration ++ "` is a " ++ shape.text ++ " and cannot be faked"
  | .requiresArguments declaration count =>
    "class `" ++ declaration ++ "` needs " ++ toString count ++
      " constructor argument(s); only classes constructible with `()` can be faked"
  | .untypedProperty declaration property =>
    "property `" ++ property ++ "` of `" ++ declaration ++
      "` has neither a getter nor a backing field type"

/-- The report of a rejection: a warning for a subject that is passed over, else an error. -/
def diagnostic (r : Rejection) : Diagnostic where
  code := r.code
  severity := if r.isSkip then .warning else .error
  message := r.message
  declaration := some r.declaration
  notes :=
    [if r.isSkip then "the declaration was skipped"
      else "generation for this declaration was aborted"]

end Rejection

end KotlinFakes
