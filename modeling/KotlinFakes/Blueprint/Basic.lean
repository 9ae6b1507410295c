import KotlinFakes.Ty.Substitution
import KotlinFakes.Ty.TypeParam

/-!
# Blueprints

A blueprint holds what a fake is built from: the members that it overrides, in order, and where type
parameters are declared.
-/

namespace KotlinFakes

/-- Whether a fake implements its subject or extends it. -/
inductive Supertype where
  | interface
  | baseClass
  deriving Repr, DecidableEq

def Supertype.text : Supertype → String
  | .interface => "interface"
  | .baseClass => "class"

/-- Where type parameters are declared. -/
inductive Generics where
  | absent
  | onClass
  | onMethods
  | onBoth
  deriving Repr, DecidableEq

namespace Generics

/-- The pattern for type parameters on the declaration and on some function. -/
def ofLevels : (onClass onMethods : Bool) → Generics
  | false, false => .absent
  | true, false => .onClass
  | false, true => .onMethods
  | true, true => .onBoth

/-- Whether the fake class is generic itself. -/
def hasClassLevel : Generics → Bool
  | .onClass | .onBoth => true
  | .absent | .onMethods => false

/-- Whether some behaviors have to be stored erased. -/
def needsErasure : Generics → Bool
  | .onMethods | .onBoth => true
  | .absent | .onClass => false

end Generics

/-- What an override replaces. -/
inductive Inherited where
  /-- A member without an implementation. -/
  | abstract
  /-- A member that has an implementation to fall back on. -/
  | implemented
  deriving Repr, DecidableEq

def Inherited.text : Inherited → String
  | .abstract => "abstract"
  | .implemented => "open"

namespace Blueprint

/-- A value parameter. For a `vararg` the type is that of one element. -/
structure Parameter where
  name : String
  type : Ty
  isVararg : Bool
  hasDefault : Bool
  deriving Repr, DecidableEq

/-- The type that the parameter has inside the function. -/
def Parameter.valueType (p : Parameter) : Ty := if p.isVararg then p.type.varargArray else p.type

/-- A function to override. -/
structure Function where
  name : String
  parameters : List Parameter
  result : Ty
  isSuspend : Bool
  isInline : Bool
  typeParams : List TypeParam
  inherited : Inherited
  deriving Repr, DecidableEq

namespace Function

def typeParamNames (f : Function) : List String := f.typeParams.map TypeParam.name

/-- Whether one of the function's own type parameters has a bound. A behavior stored erased cannot
    name such a parameter in a call of the inherited function. -/
def hasBounds (f : Function) : Bool := f.typeParams.any fun p => !p.bounds.isEmpty

def valueTypes (f : Function) : List Ty := f.parameters.map Parameter.valueType

def signatureType (f : Function) : Ty := .function f.valueTypes f.isSuspend f.result

/-- What tells overloads apart. -/
def overload (f : Function) : String × List Ty := (f.name, f.valueTypes)

end Function

/-- A property to override. -/
structure Property where
  name : String
  type : Ty
  isMutable : Bool
  isNullable : Bool
  inherited : Inherited
  deriving Repr, DecidableEq

namespace Property

/-- The type of the behavior behind the getter. -/
def getterType (p : Property) : Ty := .function [] false p.type

/-- The type of the behavior behind the setter. -/
def setterType (p : Property) : Ty := .function [p.type] false .unit

end Property

end Blueprint

/-- What a fake is built from. -/
structure Blueprint where
  /-- The identity of the subject. -/
  id : String
  supertype : Supertype
  package : String
  name : String
  typeParams : List TypeParam
  functions : List Blueprint.Function
  properties : List Blueprint.Property
  generics : Generics
  deriving Repr, DecidableEq

namespace Blueprint

def qualifiedName (b : Blueprint) : String := QualifiedName.within b.package b.name

def subject (b : Blueprint) : QualifiedName := ⟨b.package, b.name⟩

def classTypeParams (b : Blueprint) : List TypeParam :=
  if b.generics.hasClassLevel then b.typeParams else []

/-- The types that a function mentions: bounds, parameters, result. -/
def Function.mentionedTypes (f : Function) : List Ty :=
  f.typeParams.flatMap TypeParam.bounds ++ f.parameters.map Parameter.type ++ [f.result]

def mentionedTypes (b : Blueprint) : List Ty :=
  b.typeParams.flatMap TypeParam.bounds ++ b.functions.flatMap Function.mentionedTypes ++
    b.properties.map Property.type

/-- The type parameters that the behavior of a function is stored without. -/
def erasedNames (b : Blueprint) (f : Function) : List String :=
  if b.generics.needsErasure then f.typeParamNames else []

end Blueprint

end KotlinFakes
