import KotlinFakes.Identifier
import KotlinFakes.Ty.Basic

/-!
# Slots

Every faked member has a slot, a base name from which the names of its behavior, its call counter
and its configure method are made.
-/

namespace KotlinFakes

/-- The names derived from one base. -/
structure Slot where
  base : String
  deriving Repr, DecidableEq

namespace Slot

/-- The private field that holds the behavior. -/
def behavior (slot : Slot) : String := slot.base ++ "Behavior"

/-- The public counter of calls. -/
def counter (slot : Slot) : String := slot.base ++ "CallCount"

/-- The private state behind the counter. -/
def counterState (slot : Slot) : String := "_" ++ slot.base ++ "CallCount"

/-- The method that installs a behavior. -/
def configure (slot : Slot) : String := "configure" ++ Identifier.capitalized slot.base

/-- The method of the configuration class. -/
def dsl (slot : Slot) : String := Identifier.quoted slot.base

end Slot

namespace Ty

mutual
/-- A word for a type, by which overloads are told apart. -/
def word : Ty → String
  | .primitive p => p.name
  | .nullable inner => inner.word
  | .apply name args => if name = outName then (firstWord args).getD name.short else name.short
  | .function .. => "Function"
  | .param name => name
  | .named name => if name.simple = "*" then "Star" else name.short
def firstWord : List Ty → Option String
  | [] => none
  | t :: _ => some t.word
end

end Ty

end KotlinFakes
