import KotlinFakes.Ty.Basic

/-!
# Substitution and erasure

Replacing the type parameters of a type. A behavior is stored in a class that does not know the type
parameters of a single function, so those are erased to `Any?`.
-/

namespace KotlinFakes.Ty

mutual
/-- The type parameters that occur in a type, in order. -/
def params : Ty → List String
  | .param name => [name]
  | .nullable inner => inner.params
  | .apply _ args => paramsAll args
  | .function ps _ result => paramsAll ps ++ result.params
  | .primitive _ | .named _ => []
def paramsAll : List Ty → List String
  | [] => []
  | t :: ts => t.params ++ paramsAll ts
end

/-- Whether a type parameter occurs in a type. -/
def mentions (t : Ty) (name : String) : Bool := t.params.contains name

/-- Whether one of the names occurs in a type as a type parameter. -/
def mentionsAny (t : Ty) (names : List String) : Bool := t.params.any names.contains

mutual
/-- Replace the type parameters that `replace` gives a type for. A nullable occurrence stays
    nullable and gets no second mark. -/
def substitute (replace : String → Option Ty) : Ty → Ty
  | .param name => (replace name).getD (.param name)
  | .nullable inner => (inner.substitute replace).orNull
  | .apply name args => .apply name (substituteAll replace args)
  | .function params isSuspend result =>
    .function (substituteAll replace params) isSuspend (result.substitute replace)
  | .primitive p => .primitive p
  | .named name => .named name
def substituteAll (replace : String → Option Ty) : List Ty → List Ty
  | [] => []
  | t :: ts => t.substitute replace :: substituteAll replace ts
end

/-- Replace the given type parameters with `Any?`; with no names the type stays as it is written. -/
def erase (t : Ty) (names : List String) : Ty :=
  if names.isEmpty then t
  else t.substitute fun name => if names.contains name then some top else none

end KotlinFakes.Ty
