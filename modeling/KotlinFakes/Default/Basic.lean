import KotlinFakes.Default.Factory
import KotlinFakes.Text.Quoted
import KotlinFakes.Ty.NamePolicy

/-!
# Default values

The expression that a behavior starts with, as a tree. The tree says nothing of the message that an
unconfigured member fails with; that is filled in when the expression is written.
-/

namespace KotlinFakes

/-- The zero value of a primitive; `Nothing` has none. -/
def Primitive.zero? : Primitive → Option String
  | .string => some "\"\""
  | .int => some "0"
  | .long => some "0L"
  | .short => some "0.toShort()"
  | .byte => some "0.toByte()"
  | .float => some "0.0f"
  | .double => some "0.0"
  | .boolean => some "false"
  | .char => some "'\\u0000'"
  | .unit => some "Unit"
  | .any => some "Any()"
  | .nothing => none

/-- A default value. -/
inductive Default where
  /-- The value `null`. -/
  | null
  /-- The zero value of a primitive. -/
  | zero (p : Primitive)
  /-- An array class called with the length zero. -/
  | emptyArray (simple : String)
  /-- An empty container, with type arguments where they have to be written. -/
  | call (factory : Factory) (typeArgs : List Ty)
  /-- A successful `Result`. -/
  | success (name : QualifiedName) (payload : Default)
  /-- A constructor called with the parts. -/
  | tuple (name : QualifiedName) (parts : List Default)
  /-- The closure that returns its argument. -/
  | identity
  /-- The closure that runs the block it is given. -/
  | runBlock
  /-- A closure that ignores its arguments and does nothing. -/
  | idle (arity : Nat)
  /-- A closure that ignores its arguments and returns a value. -/
  | closure (arity : Nat) (body : Default)
  /-- The expression that fails with a message. -/
  | failure
  deriving Repr

namespace Default

mutual
/-- Whether neither the value nor a call of it fails. -/
def isSafe : Default → Bool
  | .failure => false
  | .success _ payload => payload.isSafe
  | .tuple _ parts => allSafe parts
  | .closure _ body => body.isSafe
  | _ => true
def allSafe : List Default → Bool
  | [] => true
  | d :: ds => d.isSafe && allSafe ds
end

/-- The expression that fails with a message. -/
def failureText (message : String) : String :=
  "error(" ++ Text.Quoted.literal message ++ ")"

/-- As many ignored parameters as a closure has arguments. -/
def holes (arity : Nat) : String :=
  Text.joinWith ", " (List.replicate arity "_")

/-- A closure that ignores its arguments, with the text of its body. -/
def closureText (arity : Nat) (body : String) : String :=
  if arity = 0 then "\x7b " ++ body ++ " \x7d"
  else "\x7b " ++ holes arity ++ " -> " ++ body ++ " \x7d"

/-- A closure that ignores its arguments and has no body. -/
def idleText (arity : Nat) : String :=
  if arity = 0 then "\x7b\x7d" else "\x7b " ++ holes arity ++ " -> \x7d"

mutual
/-- The expression as a file writes it. -/
def write (policy : NamePolicy) (message : String) : Default → String
  | .null => "null"
  | .zero p => p.zero?.getD (failureText message)
  | .emptyArray simple => simple ++ "(0)"
  | .call factory typeArgs =>
    factory.name ++ NamePolicy.bracketed (policy.writeAll typeArgs) ++ "()"
  | .success name payload =>
    policy.writeName name ++ ".success(" ++ write policy message payload ++ ")"
  | .tuple name parts =>
    policy.writeName name ++ "(" ++ Text.joinWith ", " (writeAll policy message parts) ++ ")"
  | .identity => "\x7b it \x7d"
  | .runBlock => "\x7b block -> block() \x7d"
  | .idle arity => idleText arity
  | .closure arity body => closureText arity (write policy message body)
  | .failure => failureText message
def writeAll (policy : NamePolicy) (message : String) : List Default → List String
  | [] => []
  | d :: ds => write policy message d :: writeAll policy message ds
end

end Default

end KotlinFakes
