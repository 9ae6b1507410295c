import KotlinFakes.Default.OfTy
import KotlinFakes.Fake.Names
import KotlinFakes.Slot.Table

/-!
# Behaviors

What a member of a fake does before it is configured. A member with an inherited implementation
forwards to it; other members of an interface get a default value, and other members of a class
fail.
-/

namespace KotlinFakes.Fake

/-- A call of the inherited implementation of a function. -/
structure SuperCall where
  function : String
  /-- How many type arguments are pinned to `Any?`. -/
  typeArgs : Nat
  arguments : List Blueprint.Parameter
  deriving Repr, DecidableEq

/-- What a behavior does before it is configured. -/
inductive Initial where
  /-- Read the inherited property. -/
  | readSuper (property : String)
  /-- Write the inherited property. -/
  | writeSuper (property : String)
  /-- Let the getter return the value from now on. -/
  | remember (getter : Slot)
  /-- Call the inherited function. -/
  | callSuper (call : SuperCall)
  /-- Ignore the arguments and fail. -/
  | failing (arity : Nat)
  /-- A default value. -/
  | value (default : Default)
  deriving Repr

/-- A field that holds the behavior of a member. -/
structure Behavior where
  slot : Slot
  /-- The type of the field. -/
  type : Ty
  initial : Initial
  /-- The message of the failure of an unconfigured member. -/
  message : String
  deriving Repr

/-- The message of a member that fails because it is not configured. -/
def unconfigured (b : Blueprint) (member : String) (slot : Slot) : String :=
  b.name ++ "." ++ member ++ " is not configured. Set it with " ++ factoryFunction b.name ++
    " \x7b " ++ slot.dsl ++ " \x7b ... \x7d \x7d"

/-- Where the behavior of a member comes from. -/
inductive Source where
  | inherited
  | unconfigured
  | synthesized
  deriving Repr, DecidableEq

/-- The source of a function's behavior. A function whose own type parameters are bounded cannot
    forward, for the call would pin them to `Any?`. -/
def functionSource (b : Blueprint) (f : Blueprint.Function) : Source :=
  if f.inherited = .implemented && !f.hasBounds then .inherited
  else if b.supertype = .baseClass then .unconfigured
  else .synthesized

def propertySource (b : Blueprint) (p : Blueprint.Property) : Source :=
  if p.inherited = .implemented then .inherited
  else if b.supertype = .baseClass then .unconfigured
  else .synthesized

/-- What a function does before it is configured. -/
def functionInitial (b : Blueprint) (f : Blueprint.Function) : Initial :=
  match functionSource b f with
  | .inherited => .callSuper ⟨f.name, f.typeParams.length, f.parameters⟩
  | .unconfigured => .failing f.parameters.length
  | .synthesized => .value (Default.ofTy (b.erasedNames f) f.signatureType)

/-- What a getter does before it is configured. -/
def getterInitial (b : Blueprint) (p : Blueprint.Property) : Initial :=
  match propertySource b p with
  | .inherited => .readSuper p.name
  | .unconfigured => .failing 0
  | .synthesized => .value (Default.ofTy [] p.getterType)

/-- What a setter does before it is configured. -/
def setterInitial (getter : Slot) (p : Blueprint.Property) : Initial :=
  match p.inherited with
  | .implemented => .writeSuper p.name
  | .abstract => .remember getter

/-- The functions that have to be imported for the default values of a fake. -/
def defaultImports (b : Blueprint) : List QualifiedName :=
  (b.functions.filter fun f => functionSource b f = .synthesized).flatMap (fun f =>
      Default.importsOf (b.erasedNames f) f.signatureType) ++
    (b.properties.filter fun p => propertySource b p = .synthesized).flatMap fun p =>
      Default.importsOf [] p.getterType

namespace SuperCall

/-- The call, with the parameters of the closure it stands in as arguments. -/
def write (call : SuperCall) : String :=
  let names := call.arguments.map fun p => Identifier.quoted p.name
  let args := call.arguments.map fun p =>
    (if p.isVararg then "*" else "") ++ Identifier.quoted p.name
  let body := "super." ++ Identifier.quoted call.function ++
    NamePolicy.bracketed (List.replicate call.typeArgs "Any?") ++
    "(" ++ Text.joinWith ", " args ++ ")"
  if names.isEmpty then "\x7b " ++ body ++ " \x7d"
  else "\x7b " ++ Text.joinWith ", " names ++ " -> " ++ body ++ " \x7d"

end SuperCall

/-- The closure that a behavior starts with. -/
def Initial.write (policy : NamePolicy) (message : String) : Initial → String
  | .readSuper property => "\x7b super." ++ Identifier.quoted property ++ " \x7d"
  | .writeSuper property =>
    "\x7b value -> super." ++ Identifier.quoted property ++ " = value \x7d"
  | .remember getter => "\x7b value -> " ++ getter.behavior ++ " = \x7b value \x7d \x7d"
  | .callSuper call => call.write
  | .failing arity => Default.closureText arity (Default.failureText message)
  | .value default => default.write policy message

end KotlinFakes.Fake
