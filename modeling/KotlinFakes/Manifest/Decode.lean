import KotlinFakes.JsonText.Value
import KotlinFakes.Manifest.Basic

/-!
# Decoding manifests

A manifest is written in JSON. Each record is an object, in which unknown keys are passed over, or an
array of its fields in order, in which fields that have a default may be missing at the end. Members
are read with more care than the rest: everything in them has to make sense, used or not.
-/

namespace KotlinFakes.Manifest

open JsonText (Value)

/-- The values of the fields that a record has. -/
abbrev Fields := List (String × Value)

/-- The known fields among the entries of an object. None may be given twice. -/
def knownEntries (names : List String) : List (Option String × Value) → Option Fields
  | [] => some []
  | (none, _) :: _ => none
  | (some key, value) :: rest => do
    let fields ← knownEntries names rest
    if names.contains key then
      if (fields.lookup key).isSome then none else some ((key, value) :: fields)
    else some fields

/-- The fields of a record with the given field names. -/
def fields? (names : List String) : Value → Option Fields
  | .object entries => knownEntries names entries
  | .array items => if items.length ≤ names.length then some (names.zip items) else none
  | _ => none

/-- A field that must be given. -/
def required {α : Type} (fields : Fields) (name : String) (read : Value → Option α) : Option α :=
  (fields.lookup name).bind read

/-- A field that has a default. -/
def optional {α : Type} (fields : Fields) (name : String) (default : α)
    (read : Value → Option α) : Option α :=
  match fields.lookup name with
  | some value => read value
  | none => some default

def text? : Value → Option String
  | .string content => content
  | _ => none

def flag? : Value → Option Bool
  | .bool value => some value
  | _ => none

def natural? : Value → Option Nat
  | .number n => n.natural?
  | _ => none

def textOrNull? : Value → Option (Option String)
  | .null => some none
  | value => (text? value).map some

/-- The items of an array, read one by one. -/
def list? {α : Type} (read : Value → Option α) : Value → Option (List α)
  | .array items => items.mapM read
  | _ => none

def texts? : Value → Option (List String) := list? text?

def isNull : Value → Bool
  | .null => true
  | _ => false

/-- Whether a value is null or an object without entries. -/
def isNothing : Value → Bool
  | .null | .object [] => true
  | _ => false

/-- One of several named choices: its name, or an object that has the name as its only key and
    nothing in it. -/
def choice? {α : Type} (isEmpty : Value → Bool) (choices : List (String × α)) : Value → Option α
  | .string (some name) => choices.lookup name
  | .object [(some name, value)] => if isEmpty value then choices.lookup name else none
  | _ => none

def shapes : List (String × Shape) :=
  [("interface", .interface), ("sealed_interface", .sealedInterface),
    ("abstract_class", .abstractClass), ("open_class", .openClass), ("final_class", .finalClass),
    ("sealed_class", .sealedClass), ("enum_class", .enumClass), ("object", .object)]

def modalities : List (String × Modality) :=
  [("abstract", .abstract), ("open", .overridable), ("final", .final), ("sealed", .sealed)]

def origins : List (String × Origin) :=
  [("declared", .declared), ("fake_override", .inherited), ("synthetic", .synthetic)]

def modality? (fields : Fields) : Option Modality :=
  optional fields "modality" .abstract (choice? isNothing modalities)

def origin? (fields : Fields) : Option Origin :=
  optional fields "origin" .declared (choice? isNothing origins)

def TypeParam.ofValue? (value : Value) : Option TypeParam := do
  let fields ← fields? ["name", "bounds", "reified"] value
  return {
    name := ← required fields "name" text?
    bounds := ← optional fields "bounds" [] texts?
    isReified := ← optional fields "reified" false flag? }

def Parameter.ofValue? (value : Value) : Option Parameter := do
  let fields ← fields? ["name", "type", "vararg", "default"] value
  return {
    name := ← required fields "name" text?
    type := ← required fields "type" text?
    isVararg := ← optional fields "vararg" false flag?
    hasDefault := ← optional fields "default" false flag? }

/-- Read a function. It returns `Unit` unless a type is given. -/
def Function.ofValue? (value : Value) : Option Function := do
  let fields ← fields?
    ["name", "type_parameters", "parameters", "returns", "suspend", "inline", "modality",
      "origin"] value
  return {
    name := ← required fields "name" text?
    typeParams := ← optional fields "type_parameters" [] (list? TypeParam.ofValue?)
    parameters := ← optional fields "parameters" [] (list? Parameter.ofValue?)
    result := ← optional fields "returns" "Unit" text?
    isSuspend := ← optional fields "suspend" false flag?
    isInline := ← optional fields "inline" false flag?
    modality := ← modality? fields
    origin := ← origin? fields }

def Property.ofValue? (value : Value) : Option Property := do
  let fields ← fields?
    ["name", "type", "field_type", "mutable", "modality", "origin"] value
  return {
    name := ← required fields "name" text?
    getterType := ← optional fields "type" none textOrNull?
    fieldType := ← optional fields "field_type" none textOrNull?
    isMutable := ← optional fields "mutable" false flag?
    modality := ← modality? fields
    origin := ← origin? fields }

/-- How deep arrays and objects may be nested in a member. -/
def memberDepth : Nat := 123

/-- The tag of a member and the value without it. The tag is the entry of an object under the key
    `member`, or the first item of an array. -/
def tagged? : Value → Option (String × Value)
  | .object entries =>
    match entries.filter fun entry => entry.1 = some "member" with
    | [(_, .string (some tag))] =>
      some (tag, .object (entries.filter fun entry => entry.1 ≠ some "member"))
    | _ => none
  | .array (.string (some tag) :: items) => some (tag, .array items)
  | _ => none

def Member.ofValue? (value : Value) : Option Member :=
  if value.isRegular && value.depth ≤ memberDepth then
    match tagged? value with
    | some ("function", value) => (Function.ofValue? value).map .function
    | some ("property", value) => (Property.ofValue? value).map .property
    | _ => none
  else none

def Declaration.ofValue? (value : Value) : Option Declaration := do
  let fields ← fields?
    ["package", "name", "kind", "annotations", "imports", "type_parameters",
      "required_constructor_params", "origin", "members"] value
  return {
    package := ← optional fields "package" "" text?
    name := ← required fields "name" text?
    shape := ← optional fields "kind" .interface (choice? isNull shapes)
    annotations := ← optional fields "annotations" [] texts?
    imports := ← optional fields "imports" [] texts?
    typeParams := ← optional fields "type_parameters" [] (list? TypeParam.ofValue?)
    requiredArguments := ← optional fields "required_constructor_params" 0 natural?
    sourceFile := ← optional fields "origin" none textOrNull?
    members := ← optional fields "members" [] (list? Member.ofValue?) }

end Manifest

def Manifest.ofValue? (value : JsonText.Value) : Option Manifest := do
  let fields ← fields? ["imports", "declarations"] value
  return {
    imports := ← optional fields "imports" [] texts?
    declarations := ← optional fields "declarations" [] (list? Declaration.ofValue?) }

/-- The manifest that a text denotes, if it is one. -/
def Manifest.ofText? (text : String) : Option Manifest := (JsonText.parse text).bind ofValue?

end KotlinFakes
