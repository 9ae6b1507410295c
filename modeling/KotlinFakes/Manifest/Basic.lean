import KotlinFakes.Subject.Basic

/-!
# Manifests

A manifest lists the declarations that fakes may be wanted for, with every type still in the words
of its author.
-/

namespace KotlinFakes

namespace Manifest

/-- A type parameter as it is written. -/
structure TypeParam where
  name : String
  bounds : List String
  isReified : Bool
  deriving Repr, DecidableEq

/-- A value parameter as it is written. -/
structure Parameter where
  name : String
  type : String
  isVararg : Bool
  hasDefault : Bool
  deriving Repr, DecidableEq

/-- A function as it is written. -/
structure Function where
  name : String
  typeParams : List TypeParam
  parameters : List Parameter
  result : String
  isSuspend : Bool
  isInline : Bool
  modality : Modality
  origin : Origin
  deriving Repr, DecidableEq

/-- A property as it is written. -/
structure Property where
  name : String
  getterType : Option String
  fieldType : Option String
  isMutable : Bool
  modality : Modality
  origin : Origin
  deriving Repr, DecidableEq

/-- A member as it is written. -/
inductive Member where
  | function (f : Function)
  | property (p : Property)
  deriving Repr, DecidableEq

/-- A declaration as it is written. Its imports come before those of the manifest. -/
structure Declaration where
  package : String
  name : String
  shape : Shape
  annotations : List String
  imports : List String
  typeParams : List TypeParam
  requiredArguments : Nat
  sourceFile : Option String
  members : List Member
  deriving Repr, DecidableEq

end Manifest

/-- Declarations in order, with the imports that all of them share. -/
structure Manifest where
  imports : List String
  declarations : List Manifest.Declaration
  deriving Repr, DecidableEq

end KotlinFakes
