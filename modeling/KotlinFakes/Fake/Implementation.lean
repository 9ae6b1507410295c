import KotlinFakes.Fake.Member
import KotlinFakes.Layout

/-!
# The implementation class

The class that overrides the members of the subject, with a call counter, a behavior and a configure
method for each.
-/

namespace KotlinFakes.Fake

open Layout

/-- The implementation class of a subject. -/
structure Implementation where
  subject : QualifiedName
  supertype : Supertype
  typeParams : List TypeParam
  properties : List PropertyMember
  functions : List FunctionMember
  deriving Repr

def Implementation.ofBlueprint (b : Blueprint) (slots : SlotTable) : Implementation where
  subject := b.subject
  supertype := b.supertype
  typeParams := b.classTypeParams
  properties := slots.properties.map (.ofSlots b)
  functions := slots.functions.map (.ofSlot b)

/-- The annotation above a method that casts between a stored and a declared type. -/
def uncheckedCast : Block := .line "@Suppress(\"UNCHECKED_CAST\")"

/-- The type parameters of a method, with a blank after them if there are any. -/
def writeMethodParams (policy : NamePolicy) (params : List TypeParam) : String :=
  let list := policy.writeTypeParams false params
  if list = "" then "" else list ++ " "

def counterBlocks (slot : Slot) : List Block :=
  [.line ("private val " ++ slot.counterState ++ " = MutableStateFlow(0)"),
    .line ("val " ++ slot.counter ++ ": StateFlow<Int> get() = " ++ slot.counterState)]

def countBlock (slot : Slot) : Block := .line (slot.counterState ++ ".update \x7b it + 1 \x7d")

/-- The field that holds a behavior. -/
def Behavior.block (policy : NamePolicy) (behavior : Behavior) : Block :=
  .line ("private var " ++ behavior.slot.behavior ++ ": " ++ policy.write behavior.type ++ " = " ++
    behavior.initial.write policy behavior.message)

def Configure.header (policy : NamePolicy) (c : Configure) : String :=
  "internal fun " ++ writeMethodParams policy c.typeParams ++ c.slot.configure ++ "(behavior: " ++
    policy.write c.type ++ ")" ++ policy.writeWhere c.typeParams

def Configure.blocks (policy : NamePolicy) (c : Configure) : List Block :=
  match c.cast with
  | none => [.block (c.header policy) [.line (c.slot.behavior ++ " = behavior")]]
  | some storage =>
    [uncheckedCast, .block (c.header policy)
      [.line (c.slot.behavior ++ " = behavior as " ++ policy.write storage)]]

def PropertyMember.overrideBlocks (policy : NamePolicy) (m : PropertyMember) : List Block :=
  [.line ("override " ++ (if m.isMutable then "var " else "val ") ++ Identifier.quoted m.name ++
      ": " ++ policy.write m.type),
    .nested
      (.block "get()"
          [countBlock m.getter.slot, .line ("return " ++ m.getter.slot.behavior ++ "()")] ::
        m.setter.toList.map fun setter =>
          .block "set(value)"
            [countBlock setter.slot, .line (setter.slot.behavior ++ "(value)")])]

def PropertyMember.blocks (policy : NamePolicy) (m : PropertyMember) : List Block :=
  Block.spaced
    ((m.behaviors.flatMap (fun behavior => counterBlocks behavior.slot) ++
        m.behaviors.map (Behavior.block policy)) ::
      m.overrideBlocks policy ::
      m.configures.map (Configure.blocks policy))

def writeParameter (policy : NamePolicy) (p : Blueprint.Parameter) : String :=
  (if p.isVararg then "vararg " else "") ++ Identifier.quoted p.name ++ ": " ++ policy.write p.type

def Argument.write (policy : NamePolicy) (a : Argument) : String :=
  match a.cast with
  | none => Identifier.quoted a.name
  | some type => Identifier.quoted a.name ++ " as " ++ policy.write type

def FunctionMember.header (policy : NamePolicy) (m : FunctionMember) : String :=
  let f := m.function
  "override " ++ (if f.isSuspend then "suspend " else "") ++ "fun " ++
    writeMethodParams policy f.typeParams ++ Identifier.quoted f.name ++
    "(" ++ Text.joinWith ", " (f.parameters.map (writeParameter policy)) ++ ")" ++
    (if f.result.isUnit then "" else ": " ++ policy.write f.result) ++
    policy.writeWhere f.typeParams

def FunctionMember.call (policy : NamePolicy) (m : FunctionMember) : String :=
  m.behavior.slot.behavior ++
    "(" ++ Text.joinWith ", " (m.arguments.map (Argument.write policy)) ++ ")"

/-- The last line of an override. -/
def FunctionMember.lastLine (policy : NamePolicy) (m : FunctionMember) : String :=
  if m.function.result.isUnit then m.call policy
  else
    match m.resultCast with
    | none => "return " ++ m.call policy
    | some type => "return " ++ m.call policy ++ " as " ++ policy.write type

def FunctionMember.overrideBlocks (policy : NamePolicy) (m : FunctionMember) : List Block :=
  (if m.casts then [uncheckedCast] else []) ++
    [.block (m.header policy) [countBlock m.behavior.slot, .line (m.lastLine policy)]]

def FunctionMember.blocks (policy : NamePolicy) (m : FunctionMember) : List Block :=
  Block.spaced
    [counterBlocks m.behavior.slot ++ [m.behavior.block policy], m.overrideBlocks policy,
      m.configure.blocks policy]

def Implementation.header (policy : NamePolicy) (c : Implementation) : String :=
  "class " ++ implementationClass c.subject.simple ++ policy.writeTypeParams false c.typeParams ++
    " : " ++ policy.writeName c.subject ++ NamePolicy.writeArguments c.typeParams ++
    (match c.supertype with
      | .interface => ""
      | .baseClass => "()") ++
    policy.writeWhere c.typeParams

def Implementation.blocks (policy : NamePolicy) (c : Implementation) : List Block :=
  [.block (c.header policy)
    (Block.spaced
      (c.properties.map (PropertyMember.blocks policy) ++
        c.functions.map (FunctionMember.blocks policy)))]

/-- The methods that install behaviors, in the order of the class. -/
def Implementation.configures (c : Implementation) : List Configure :=
  c.properties.flatMap PropertyMember.configures ++ c.functions.map FunctionMember.configure

def Implementation.behaviors (c : Implementation) : List Behavior :=
  c.properties.flatMap PropertyMember.behaviors ++ c.functions.map FunctionMember.behavior

end KotlinFakes.Fake
