import KotlinFakes.Fake.Behavior

/-!
# Members of a fake

An override together with the fields and methods that belong to it. Behaviors of functions with type
parameters of their own are stored erased: the override widens its arguments and narrows the result,
and the configure method widens the behavior it installs.
-/

namespace KotlinFakes.Fake

/-- A method that installs a behavior. -/
structure Configure where
  slot : Slot
  typeParams : List TypeParam
  /-- The type of the behavior to install. -/
  type : Ty
  /-- The type that the behavior is cast to, if it is stored under another one. -/
  cast : Option Ty
  deriving Repr, DecidableEq

/-- An argument of the call of a behavior. -/
structure Argument where
  name : String
  /-- The type that the argument is cast to, if it is erased. -/
  cast : Option Ty
  deriving Repr, DecidableEq

/-- An overridden property. -/
structure PropertyMember where
  name : String
  type : Ty
  isMutable : Bool
  getter : Behavior
  setter : Option Behavior
  deriving Repr

/-- An overridden function. -/
structure FunctionMember where
  function : Blueprint.Function
  behavior : Behavior
  arguments : List Argument
  /-- The type that the result is cast to, if it is erased. -/
  resultCast : Option Ty
  configure : Configure
  deriving Repr

namespace PropertyMember

def ofSlots (b : Blueprint) (s : PropertySlots) : PropertyMember :=
  let p := s.property
  let message := unconfigured b p.name s.getter
  { name := p.name
    type := p.type
    isMutable := p.isMutable
    getter := ⟨s.getter, p.getterType, getterInitial b p, message⟩
    setter := s.setter.map fun slot => ⟨slot, p.setterType, setterInitial s.getter p, message⟩ }

def behaviors (m : PropertyMember) : List Behavior := m.getter :: m.setter.toList

def configures (m : PropertyMember) : List Configure :=
  m.behaviors.map fun behavior => ⟨behavior.slot, [], behavior.type, none⟩

end PropertyMember

namespace FunctionMember

/-- The argument that passes a parameter on to the behavior. -/
def argument (erased : List String) (p : Blueprint.Parameter) : Argument where
  name := p.name
  cast :=
    if p.valueType.mentionsAny erased then some (p.valueType.erase erased) else none

def ofSlot (b : Blueprint) (s : FunctionSlot) : FunctionMember :=
  let f := s.function
  let erased := b.erasedNames f
  let storage := f.signatureType.erase erased
  { function := f
    behavior := ⟨s.slot, storage, functionInitial b f, unconfigured b f.name s.slot⟩
    arguments := f.parameters.map (argument erased)
    resultCast :=
      if !f.result.isUnit && f.result.mentionsAny erased then some f.result else none
    configure :=
      { slot := s.slot
        typeParams := f.typeParams
        type := f.signatureType
        cast := if storage = f.signatureType then none else some storage } }

/-- Whether the override casts anything. -/
def casts (m : FunctionMember) : Bool :=
  m.arguments.any (fun a => a.cast.isSome) || m.resultCast.isSome

end FunctionMember

end KotlinFakes.Fake
