import KotlinFakes.Fake.Implementation

/-!
# The configuration class

The class through which a test installs behaviors. Its methods take the behaviors under their
declared types, and they are the only public way to install one.
-/

namespace KotlinFakes.Fake

open Layout

/-- A method of the configuration class. -/
structure ConfigurationMethod where
  slot : Slot
  typeParams : List TypeParam
  /-- The type of the behavior to install. -/
  type : Ty
  deriving Repr, DecidableEq

/-- The configuration class of a subject. -/
structure Configuration where
  subject : String
  typeParams : List TypeParam
  methods : List ConfigurationMethod
  deriving Repr, DecidableEq

namespace Configuration

/-- The methods of a property: for the getter, and for the setter if there is one. -/
def propertyMethods (s : PropertySlots) : List ConfigurationMethod :=
  ⟨s.getter, [], s.property.getterType⟩ ::
    s.setter.toList.map fun slot => ⟨slot, [], s.property.setterType⟩

def functionMethod (s : FunctionSlot) : ConfigurationMethod :=
  ⟨s.slot, s.function.typeParams, s.function.signatureType⟩

def ofBlueprint (b : Blueprint) (slots : SlotTable) : Configuration where
  subject := b.name
  typeParams := b.classTypeParams
  methods := slots.properties.flatMap propertyMethods ++ slots.functions.map functionMethod

end Configuration

def ConfigurationMethod.header (policy : NamePolicy) (m : ConfigurationMethod) : String :=
  "fun " ++ writeMethodParams policy m.typeParams ++ m.slot.dsl ++ "(behavior: " ++
    policy.write m.type ++ ")" ++ policy.writeWhere m.typeParams

def ConfigurationMethod.blocks (policy : NamePolicy) (m : ConfigurationMethod) : List Block :=
  [.block (m.header policy) [.line ("fake." ++ m.slot.configure ++ "(behavior)")]]

def Configuration.header (policy : NamePolicy) (c : Configuration) : String :=
  "class " ++ configurationClass c.subject ++ policy.writeTypeParams false c.typeParams ++
    "(private val fake: " ++ implementationClass c.subject ++
    NamePolicy.writeArguments c.typeParams ++ ")" ++ policy.writeWhere c.typeParams

def Configuration.blocks (policy : NamePolicy) (c : Configuration) : List Block :=
  [.block (c.header policy) (Block.spaced (c.methods.map (ConfigurationMethod.blocks policy)))]

end KotlinFakes.Fake
