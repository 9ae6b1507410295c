import KotlinFakes.Ty.Basic

/-!
# Type references

A type as a declaration refers to it, with the classes resolved to full names as far as that was
possible. `TypeRef.toTy` is the type it denotes.
-/

namespace KotlinFakes

/-- A reference to a type. -/
inductive TypeRef where
  /-- A class by its full name, with its type arguments. -/
  | ofClass (fullName : String) (args : List TypeRef) (isNullable : Bool)
  /-- A type parameter in scope. -/
  | ofParam (name : String) (isNullable : Bool)
  /-- A function type. -/
  | ofFunction (params : List TypeRef) (result : TypeRef) (isSuspend isNullable : Bool)
  /-- The star of a type argument. -/
  | star
  /-- A reference that could not be resolved, as it was written. -/
  | unresolved (text : String)
  deriving Repr

namespace TypeRef

instance : Inhabited TypeRef := ⟨.star⟩

def unit : TypeRef := .ofClass "kotlin.Unit" [] false

/-- The reference marked nullable. A star and an unresolved reference take no mark. -/
def orNull : TypeRef → TypeRef
  | .ofClass fullName args _ => .ofClass fullName args true
  | .ofParam name _ => .ofParam name true
  | .ofFunction params result isSuspend _ => .ofFunction params result isSuspend true
  | .star => .star
  | .unresolved text => .unresolved text

/-- Whether the reference is marked nullable. -/
def isNullable : TypeRef → Bool
  | .ofClass _ _ isNullable | .ofParam _ isNullable | .ofFunction _ _ _ isNullable => isNullable
  | .star | .unresolved _ => false

/-- Whether the reference is to the root class, nullable or not. -/
def isAny : TypeRef → Bool
  | .ofClass fullName _ _ => fullName = "kotlin.Any"
  | _ => false

/-- A class without type arguments: a primitive if its full name is that of one. -/
def classTy (fullName : String) : Ty :=
  match Primitive.ofFullName? fullName with
  | some p => .primitive p
  | none => .named (.parse fullName)

/-- A type with a nullability mark, if there is one. -/
def marked (isNullable : Bool) (t : Ty) : Ty := if isNullable then t.orNull else t

mutual
/-- The type that a reference denotes. An unresolved one denotes the class with the text that was
    written. -/
def toTy : TypeRef → Ty
  | .ofClass fullName args isNullable =>
    marked isNullable <|
      match toTys args with
      | [] => classTy fullName
      | first :: rest => .apply (.parse fullName) (first :: rest)
  | .ofParam name isNullable => marked isNullable (.param name)
  | .ofFunction params result isSuspend isNullable =>
    marked isNullable (.function (toTys params) isSuspend result.toTy)
  | .star => .star
  | .unresolved text => .named (.parse text)
def toTys : List TypeRef → List Ty
  | [] => []
  | r :: rs => r.toTy :: toTys rs
end

end TypeRef

end KotlinFakes
