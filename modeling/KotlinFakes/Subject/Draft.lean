import KotlinFakes.Blueprint.Basic
import KotlinFakes.Subject.Rejection

/-!
# Drafts

A draft is the blueprint of a subject before anything is known about its generics, together with the
bounds that could not be resolved. Members that cannot or need not be overridden are left out: those
the compiler made, final and sealed ones, the members of every object, and inherited ones that the
declaration writes again.
-/

namespace KotlinFakes

/-- A bound that could not be resolved. -/
structure UnresolvedBound where
  /-- The function that declares the type parameter; none for the declaration itself. -/
  function : Option String
  parameter : String
  text : String
  deriving Repr, DecidableEq

/-- A blueprint whose generics are not classified yet. -/
structure Draft where
  blueprint : Blueprint
  unresolvedBounds : List UnresolvedBound
  deriving Repr, DecidableEq

namespace Subject

namespace TypeParam

/-- Whether a bound adds nothing because every type satisfies it. -/
def isImplicitBound (bound : TypeRef) : Bool := bound.isAny && bound.isNullable

/-- The type that a bound is replaced by: `Any?` if it is unresolved. -/
def boundTy : TypeRef → Ty
  | .unresolved _ => .top
  | bound => bound.toTy

def lower (p : TypeParam) : KotlinFakes.TypeParam where
  name := p.name
  bounds := (p.bounds.filter fun bound => !isImplicitBound bound).map boundTy
  isReified := p.isReified

/-- The bounds of the type parameter that could not be resolved. -/
def unresolvedBounds (function : Option String) (p : TypeParam) : List UnresolvedBound :=
  p.bounds.filterMap fun
    | .unresolved text => some ⟨function, p.name, text⟩
    | _ => none

end TypeParam

namespace Function

def lowerParameter (p : Parameter) : Blueprint.Parameter :=
  ⟨p.name, p.type.toTy, p.isVararg, p.hasDefault⟩

def lower (inherited : Inherited) (f : Function) : Blueprint.Function where
  name := f.name
  parameters := f.parameters.map lowerParameter
  result := f.result.toTy
  isSuspend := f.isSuspend
  isInline := f.isInline
  typeParams := f.typeParams.map TypeParam.lower
  inherited := inherited

/-- The bounds of the function's type parameters that could not be resolved. -/
def unresolvedBounds (f : Function) : List UnresolvedBound :=
  f.typeParams.flatMap (TypeParam.unresolvedBounds (some f.name))

end Function

namespace Property

/-- The type of a property: that of its getter, or else that of its field. -/
def type? (p : Property) : Option TypeRef := p.getterType.or p.fieldType

/-- The property with its type resolved, if it has one. -/
def lower? (inherited : Inherited) (p : Property) : Option Blueprint.Property :=
  p.type?.map fun type =>
    { name := p.name
      type := type.toTy
      isMutable := p.isMutable
      isNullable := type.toTy.isNullable
      inherited := inherited }

end Property

namespace Member

/-- What identifies a member: its name, and for a function the types of its parameters. -/
inductive Key where
  | function (name : String) (parameters : List Ty)
  | property (name : String)
  deriving Repr, DecidableEq

def key : Member → Key
  | .function f => .function f.name (f.parameters.map fun p => p.type.toTy)
  | .property p => .property p.name

/-- The functions that every object has. -/
def universal : List String := ["equals", "hashCode", "toString"]

/-- Whether a member is one of the functions that every object has. -/
def isUniversal : Member → Bool
  | .function f => universal.contains f.name
  | .property _ => false

/-- What an override of the member would replace; none if the member is never overridden. -/
def inherited? (m : Member) : Option Inherited :=
  if m.origin = .synthetic || m.isUniversal then none
  else
    match m.modality with
    | .abstract => some .abstract
    | .overridable => some .implemented
    | .final | .sealed => none

end Member

/-- The keys of the members that are written in the body of the declaration. -/
def declaredKeys (s : Subject) : List Member.Key :=
  (s.members.filter fun m => m.origin = .declared).map Member.key

/-- What an override of a member would replace; none if the member is left out of the fake. -/
def overrides? (s : Subject) (m : Member) : Option Inherited :=
  m.inherited?.filter fun _ => !(m.origin = .inherited && s.declaredKeys.contains m.key)

/-- The functions that a fake overrides. -/
def fakeableFunctions (s : Subject) : List (Inherited × Function) :=
  s.members.filterMap fun
    | .function f => (s.overrides? (.function f)).map (·, f)
    | .property _ => none

/-- The properties that a fake overrides. -/
def fakeableProperties (s : Subject) : List (Inherited × Property) :=
  s.members.filterMap fun
    | .property p => (s.overrides? (.property p)).map (·, p)
    | .function _ => none

/-- Whether the fake of the subject implements or extends it. -/
def supertype (s : Subject) : Except Rejection Supertype :=
  match s.shape with
  | .interface => .ok .interface
  | .abstractClass | .openClass =>
    if s.requiredArguments = 0 then .ok .baseClass
    else .error (.requiresArguments s.qualifiedName s.requiredArguments)
  | .sealedInterface | .finalClass | .sealedClass | .enumClass | .object =>
    .error (.unsupportedShape s.qualifiedName s.shape)

/-- The fakeable properties with their types, up to the first that has none. -/
def lowerProperties (declaration : String) :
    List (Inherited × Property) → Except Rejection (List Blueprint.Property)
  | [] => .ok []
  | (inherited, p) :: rest =>
    match p.lower? inherited with
    | none => .error (.untypedProperty declaration p.name)
    | some property =>
      match lowerProperties declaration rest with
      | .error r => .error r
      | .ok properties => .ok (property :: properties)

/-- The bounds of the subject and its fakeable functions that could not be resolved. -/
def unresolvedBounds (s : Subject) : List UnresolvedBound :=
  s.typeParams.flatMap (TypeParam.unresolvedBounds none) ++
    s.fakeableFunctions.flatMap fun (_, f) => f.unresolvedBounds

def draft (s : Subject) : Except Rejection Draft :=
  match s.supertype with
  | .error r => .error r
  | .ok supertype =>
    match lowerProperties s.qualifiedName s.fakeableProperties with
    | .error r => .error r
    | .ok properties =>
      .ok
        { blueprint :=
            { id := s.qualifiedName
              supertype := supertype
              package := s.package
              name := s.name
              typeParams := s.typeParams.map TypeParam.lower
              functions := s.fakeableFunctions.map fun (inherited, f) => f.lower inherited
              properties := properties
              generics := .absent }
          unresolvedBounds := s.unresolvedBounds }

end Subject

end KotlinFakes
