import KotlinFakes.TypeRef

/-!
# Subjects

A subject is a declaration that a fake may be wanted for: an interface or a class with its members,
as the manifest describes it.
-/

namespace KotlinFakes

/-- What kind of declaration a subject is. -/
inductive Shape where
  | interface
  | sealedInterface
  | abstractClass
  | openClass
  | finalClass
  | sealedClass
  | enumClass
  | object
  deriving Repr, DecidableEq

def Shape.text : Shape → String
  | .interface => "interface"
  | .sealedInterface => "sealed interface"
  | .abstractClass => "abstract class"
  | .openClass => "open class"
  | .finalClass => "final class"
  | .sealedClass => "sealed class"
  | .enumClass => "enum class"
  | .object => "object"

/-- Whether a member has to, may or must not be overridden. -/
inductive Modality where
  | abstract
  | overridable
  | final
  | sealed
  deriving Repr, DecidableEq

/-- Where a member comes from. -/
inductive Origin where
  /-- It is written in the body of the declaration. -/
  | declared
  /-- It is inherited and not written again. -/
  | inherited
  /-- The compiler made it. -/
  | synthetic
  deriving Repr, DecidableEq

namespace Subject

/-- A type parameter with its bounds. -/
structure TypeParam where
  name : String
  bounds : List TypeRef
  isReified : Bool
  deriving Repr

/-- A value parameter. For a `vararg` the type is that of one element. -/
structure Parameter where
  name : String
  type : TypeRef
  isVararg : Bool
  hasDefault : Bool
  deriving Repr

/-- A function of a subject. -/
structure Function where
  name : String
  typeParams : List TypeParam
  parameters : List Parameter
  result : TypeRef
  isSuspend : Bool
  isInline : Bool
  modality : Modality
  origin : Origin
  deriving Repr

/-- A property of a subject. Its type is known from its getter or from its backing field. -/
structure Property where
  name : String
  getterType : Option TypeRef
  fieldType : Option TypeRef
  isMutable : Bool
  modality : Modality
  origin : Origin
  deriving Repr

/-- A member of a subject. -/
inductive Member where
  | function (f : Function)
  | property (p : Property)
  deriving Repr

namespace Member

def name : Member → String
  | .function f => f.name
  | .property p => p.name

def origin : Member → Origin
  | .function f => f.origin
  | .property p => p.origin

def modality : Member → Modality
  | .function f => f.modality
  | .property p => p.modality

end Member

end Subject

/-- A declaration with its members in order. -/
structure Subject where
  package : String
  name : String
  shape : Shape
  typeParams : List Subject.TypeParam
  members : List Subject.Member
  annotations : List String
  /-- How many constructor parameters have no default. -/
  requiredArguments : Nat
  /-- The file that the declaration was found in, if it is known. -/
  sourceFile : Option String
  deriving Repr

namespace Subject

/-- The name of the subject with its package, which is also its identity. -/
def qualifiedName (s : Subject) : String := QualifiedName.within s.package s.name

/-- Whether an annotation, written short or in full, has the given name. -/
def annotationMatches (name written : String) : Bool :=
  written = name || (Text.segments written).getLast? = some name

def hasAnnotation (s : Subject) (name : String) : Bool :=
  s.annotations.any (annotationMatches name)

end Subject

end KotlinFakes
