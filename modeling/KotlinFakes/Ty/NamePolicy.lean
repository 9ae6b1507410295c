import KotlinFakes.Ty.TypeParam

/-!
# Written types

How types are written in a file. A class is written by its class path, unless the file has to name
another class with the same short name; then it is written in full.
-/

namespace KotlinFakes

/-- Which classes a file writes in full, by import path. -/
structure NamePolicy where
  qualified : List String
  deriving Repr, DecidableEq

namespace NamePolicy

/-- The policy that writes every class by its class path. -/
def plain : NamePolicy := ⟨[]⟩

/-- Whether a class is written in full. -/
def isQualified (policy : NamePolicy) (name : QualifiedName) : Bool :=
  name.package != "" && policy.qualified.contains name.importPath

/-- A class name as the file writes it. -/
def writeName (policy : NamePolicy) (name : QualifiedName) : String :=
  if policy.isQualified name then name.full else name.simple

/-- Texts between angle brackets, or nothing for an empty list. -/
def bracketed (texts : List String) : String :=
  if texts.isEmpty then "" else "<" ++ Text.joinWith ", " texts ++ ">"

mutual
/-- A type as the file writes it. A nullable function type stands in parentheses, for the mark
    would else belong to its result. -/
def write (policy : NamePolicy) : Ty → String
  | .primitive p => p.name
  | .nullable inner =>
    if inner.isFunction then "(" ++ write policy inner ++ ")?" else write policy inner ++ "?"
  | .apply name args =>
    match writeAll policy args with
    | [] => policy.writeName name
    | first :: rest =>
      if name = Ty.outName then "out " ++ first
      else policy.writeName name ++ bracketed (first :: rest)
  | .function params isSuspend result =>
    (if isSuspend then "suspend " else "") ++
      "(" ++ Text.joinWith ", " (writeAll policy params) ++ ") -> " ++ write policy result
  | .param name => name
  | .named name => policy.writeName name
def writeAll (policy : NamePolicy) : List Ty → List String
  | [] => []
  | t :: ts => write policy t :: writeAll policy ts
end

/-- A type parameter in a list of them. A single bound stands with the parameter; two or more go to
    the `where` clause. -/
def writeTypeParam (policy : NamePolicy) (isReified : Bool) (param : TypeParam) : String :=
  (if isReified then "reified " else "") ++ param.name ++
    match param.bounds with
    | [bound] => " : " ++ policy.write bound
    | _ => ""

/-- A list of type parameters between angle brackets, or nothing. -/
def writeTypeParams (policy : NamePolicy) (isReified : Bool) (params : List TypeParam) : String :=
  bracketed (params.map (policy.writeTypeParam isReified))

/-- The constraints of a parameter that has two or more bounds. -/
def constraints (policy : NamePolicy) (param : TypeParam) : List String :=
  if param.needsWhere then param.bounds.map fun bound => param.name ++ " : " ++ policy.write bound
  else []

/-- The `where` clause with a blank before it, or nothing if no parameter needs one. -/
def writeWhere (policy : NamePolicy) (params : List TypeParam) : String :=
  let all := params.flatMap policy.constraints
  if all.isEmpty then "" else " where " ++ Text.joinWith ", " all

/-- The type arguments that name the parameters themselves, or nothing. -/
def writeArguments (params : List TypeParam) : String :=
  bracketed (params.map TypeParam.name)

end NamePolicy

end KotlinFakes
