import KotlinFakes.Fake.File
import KotlinFakes.Proofs.Layout.Nesting
import KotlinFakes.Proofs.Slot.Positions

/-!
# Rendering call by call

The three fragments of a file can be rendered into contexts, one call after the other, with the slots of
the members looked up by position. Such a rendering panics at a look-up that misses, and where it is to
leave level zero. Neither ever happens. What is rendered are the blocks of the three generated
declarations, so every fragment nests.
-/

namespace KotlinFakes

namespace Layout.Block

/-- Groups of blocks with an empty line before each, but not before the very first one. -/
def apart : Bool → List (List Block) → List Block
  | _, [] => []
  | isFirst, group :: rest => (if isFirst then [] else [.blank]) ++ group ++ apart false rest

theorem spaced_eq_apart (groups : List (List Block)) : spaced groups = apart true groups := by
  induction groups with
  | nil => rfl
  | cons group rest ih =>
      cases rest with
      | nil => simp [spaced, apart]
      | cons next rest =>
          rw [spaced, ih]
          simp [apart]

theorem apart_append (isFirst : Bool) (groups more : List (List Block)) :
    apart isFirst (groups ++ more) =
      apart isFirst groups ++ apart (isFirst && groups.isEmpty) more := by
  induction groups generalizing isFirst with
  | nil => simp [apart]
  | cons group rest ih => simp [apart, ih, List.append_assoc]

end Layout.Block

namespace Fake

open Layout

/-- What ends a rendering that goes wrong. -/
inductive Panic where
  /-- A level was to be left at level zero. -/
  | noLevel
  | missing (what : Missing)
  deriving Repr, DecidableEq

/-- A computation that renders into a context. -/
abbrev Rendering := StateT Context (Except Panic)

namespace Rendering

variable {α : Type}

def call (c : Call) : Rendering Unit := fun ctx =>
  match ctx.call? c with
  | none => .error .noLevel
  | some next => .ok ((), next)

def callAll (calls : List Call) : Rendering Unit := forM calls call

/-- The calls that blocks stand for. -/
def ofBlocks (blocks : List Block) : Rendering Unit := callAll (Block.callsAll blocks)

/-- What a look-up finds. -/
def find (found : Except Missing α) : Rendering α := fun ctx =>
  match found with
  | .error what => .error (.missing what)
  | .ok x => .ok (x, ctx)

@[simp] theorem find_ok (x : α) : find (.ok x) = pure x := rfl

/-- One rendering after the other with an empty line before each, but not before the very first one. The
    result tells whether that is still to come. -/
def separated : Bool → List (Rendering Unit) → Rendering Bool
  | isFirst, [] => pure isFirst
  | isFirst, rendering :: rest => do
    if !isFirst then call .blank
    rendering
    separated false rest

/-- The context that a rendering leaves behind. -/
def fragment (rendering : Rendering Unit) : Except Panic Context := Prod.snd <$> rendering .start

theorem callAll_cons (c : Call) (calls : List Call) :
    callAll (c :: calls) = (do call c; callAll calls) := List.forM_cons

theorem callAll_append (calls more : List Call) :
    callAll (calls ++ more) = (do callAll calls; callAll more) := List.forM_append

@[simp] theorem ofBlocks_nil : ofBlocks [] = pure () := by
  rw [ofBlocks, Block.callsAll_nil]
  rfl

theorem ofBlocks_cons (block : Block) (blocks : List Block) :
    ofBlocks (block :: blocks) = (do callAll block.calls; ofBlocks blocks) := by
  rw [ofBlocks, Block.callsAll_cons, callAll_append]
  rfl

@[simp] theorem ofBlocks_append (blocks more : List Block) :
    ofBlocks (blocks ++ more) = (do ofBlocks blocks; ofBlocks more) := by
  rw [ofBlocks, Block.callsAll_append, callAll_append]
  rfl

@[simp] theorem ofBlocks_line (text : String) (blocks : List Block) :
    ofBlocks (.line text :: blocks) = (do call (.line text); ofBlocks blocks) := by
  simp [ofBlocks_cons, callAll]

@[simp] theorem ofBlocks_blank (blocks : List Block) :
    ofBlocks (.blank :: blocks) = (do call .blank; ofBlocks blocks) := by
  simp [ofBlocks_cons, callAll]

@[simp] theorem ofBlocks_block (header : String) (body blocks : List Block) :
    ofBlocks (.block header body :: blocks) =
      (do call (.openBlock header); ofBlocks body; call .closeBlock; ofBlocks blocks) := by
  rw [ofBlocks_cons, Block.calls_block, callAll_cons, callAll_append]
  simp [ofBlocks, callAll]

@[simp] theorem ofBlocks_nested (body blocks : List Block) :
    ofBlocks (.nested body :: blocks) =
      (do call .indent; ofBlocks body; call .dedent; ofBlocks blocks) := by
  rw [ofBlocks_cons, Block.calls_nested, callAll_cons, callAll_append]
  simp [ofBlocks, callAll]

theorem exists_callAll {ctx : Context} {calls : List Call} {writer : Writer}
    (h : ctx.writer.callAll? calls = some writer) :
    ∃ next, callAll calls ctx = .ok ((), next) ∧ next.calls = ctx.calls ++ calls := by
  induction calls generalizing ctx with
  | nil => exact ⟨ctx, rfl, (List.append_nil _).symm⟩
  | cons c calls ih =>
      rw [Writer.callAll?_cons, Option.bind_eq_some_iff] at h
      obtain ⟨between, hcall, hrest⟩ := h
      obtain ⟨ctx', hctx', hcalls', rfl⟩ := Context.exists_call? hcall
      obtain ⟨next, hnext, hcalls⟩ := ih hrest
      refine ⟨next, ?_, by rw [hcalls, hcalls', List.append_assoc, List.singleton_append]⟩
      have hfirst : call c ctx = .ok ((), ctx') := by rw [call, hctx']
      rw [callAll_cons]
      simp only [bind, StateT.bind, hfirst]
      exact hnext

/-- Blocks can be rendered into a new context, which then nests and holds their text. -/
theorem exists_fragment (blocks : List Block) :
    ∃ ctx, fragment (ofBlocks blocks) = .ok ctx ∧ ctx.Nests ∧
      ctx.writer.output = Block.text blocks := by
  have hnested := Block.wellNested_callsAll blocks
  obtain ⟨ctx, hctx, hcalls⟩ := @exists_callAll .start _ _ (hnested.callAll?_eq .start)
  rw [Context.start, List.nil_append] at hcalls
  refine ⟨ctx, ?_, (hcalls ▸ hnested).nests, ?_⟩
  · rw [fragment, ofBlocks, hctx]
    rfl
  · rw [ctx.writer_eq, hcalls, Block.output_callAll]

theorem separated_ofBlocks (isFirst : Bool) (groups : List (List Block)) :
    separated isFirst (groups.map ofBlocks) = do
      ofBlocks (Block.apart isFirst groups)
      return isFirst && groups.isEmpty := by
  induction groups generalizing isFirst with
  | nil => simp [separated, Block.apart]
  | cons group rest ih =>
      rw [List.map_cons, separated, ih, Block.apart]
      cases isFirst <;> simp

end Rendering

open Rendering

/-! ## The implementation class -/

def renderCounter (slot : Slot) : Rendering Unit := do
  call (.line ("private val " ++ slot.counterState ++ " = MutableStateFlow(0)"))
  call (.line ("val " ++ slot.counter ++ ": StateFlow<Int> get() = " ++ slot.counterState))

def renderConfigure (slot : Slot) (typeParams constraints original : String)
    (storage : Option String) : Rendering Unit := do
  if storage.isSome then call (.line "@Suppress(\"UNCHECKED_CAST\")")
  call (.openBlock ("internal fun " ++ typeParams ++ slot.configure ++ "(behavior: " ++ original ++
    ")" ++ constraints))
  match storage with
  | some storage => call (.line (slot.behavior ++ " = behavior as " ++ storage))
  | none => call (.line (slot.behavior ++ " = behavior"))
  call .closeBlock

section Members

variable (policy : NamePolicy) (b : Blueprint)

def renderProperty (p : Blueprint.Property) (getter : Slot) (setter : Option Slot) :
    Rendering Unit := do
  let message := unconfigured b p.name getter
  renderCounter getter
  if let some setter := setter then renderCounter setter
  call (.line ("private var " ++ getter.behavior ++ ": " ++ policy.write p.getterType ++ " = " ++
    (getterInitial b p).write policy message))
  if let some setter := setter then
    call (.line ("private var " ++ setter.behavior ++ ": " ++ policy.write p.setterType ++ " = " ++
      (setterInitial getter p).write policy message))
  call .blank
  call (.line ("override " ++ (if p.isMutable then "var " else "val ") ++ Identifier.quoted p.name ++
    ": " ++ policy.write p.type))
  call .indent
  call (.openBlock "get()")
  call (.line (getter.counterState ++ ".update \x7b it + 1 \x7d"))
  call (.line ("return " ++ getter.behavior ++ "()"))
  call .closeBlock
  if let some setter := setter then
    call (.openBlock "set(value)")
    call (.line (setter.counterState ++ ".update \x7b it + 1 \x7d"))
    call (.line (setter.behavior ++ "(value)"))
    call .closeBlock
  call .dedent
  call .blank
  renderConfigure getter "" "" (policy.write p.getterType) none
  if let some setter := setter then
    call .blank
    renderConfigure setter "" "" (policy.write p.setterType) none

/-- Render the override of a function, which widens its arguments and narrows the result where their
    types are erased. -/
def renderOverride (f : Blueprint.Function) (slot : Slot) : Rendering Unit := do
  let erased := b.erasedNames f
  let params := f.parameters.map (writeParameter policy)
  let args := f.parameters.map fun p =>
    if p.valueType.mentionsAny erased then
      Identifier.quoted p.name ++ " as " ++ policy.write (p.valueType.erase erased)
    else Identifier.quoted p.name
  let narrows := !f.result.isUnit && f.result.mentionsAny erased
  if (f.parameters.any fun p => p.valueType.mentionsAny erased) || narrows then
    call (.line "@Suppress(\"UNCHECKED_CAST\")")
  call (.openBlock ("override " ++ (if f.isSuspend then "suspend " else "") ++ "fun " ++
    writeMethodParams policy f.typeParams ++ Identifier.quoted f.name ++
    "(" ++ Text.joinWith ", " params ++ ")" ++
    (if f.result.isUnit then "" else ": " ++ policy.write f.result) ++
    policy.writeWhere f.typeParams))
  call (.line (slot.counterState ++ ".update \x7b it + 1 \x7d"))
  let behaviorCall := slot.behavior ++ "(" ++ Text.joinWith ", " args ++ ")"
  if f.result.isUnit then call (.line behaviorCall)
  else if narrows then call (.line ("return " ++ behaviorCall ++ " as " ++ policy.write f.result))
  else call (.line ("return " ++ behaviorCall))
  call .closeBlock

def renderFunction (f : Blueprint.Function) (slot : Slot) : Rendering Unit := do
  let original := f.signatureType
  let storage := original.erase (b.erasedNames f)
  renderCounter slot
  call (.line ("private var " ++ slot.behavior ++ ": " ++ policy.write storage ++ " = " ++
    (functionInitial b f).write policy (unconfigured b f.name slot)))
  call .blank
  renderOverride policy b f slot
  call .blank
  renderConfigure slot (writeMethodParams policy f.typeParams) (policy.writeWhere f.typeParams)
    (policy.write original) (if storage = original then none else some (policy.write storage))

/-- Render the properties with the slots at their positions. -/
def renderProperties (slots : SlotLists) (isFirst : Bool) : Rendering Bool :=
  separated isFirst <| b.properties.zipIdx.map fun (p, index) => do
    let getter ← find (slots.getter index)
    let setter ← find (slots.setter index)
    renderProperty policy b p getter setter

def renderFunctions (slots : SlotLists) (isFirst : Bool) : Rendering Bool :=
  separated isFirst <| b.functions.zipIdx.map fun (f, index) => do
    let slot ← find (slots.function index)
    renderFunction policy b f slot

def renderImplementation (slots : SlotLists) : Rendering Unit := do
  call (.openBlock ("class " ++ implementationClass b.name ++
    policy.writeTypeParams false b.classTypeParams ++ " : " ++ policy.writeName b.subject ++
    NamePolicy.writeArguments b.classTypeParams ++
    (match b.supertype with
      | .interface => ""
      | .baseClass => "()") ++
    policy.writeWhere b.classTypeParams))
  let isFirst ← renderProperties policy b slots true
  let _ ← renderFunctions policy b slots isFirst
  call .closeBlock

end Members

theorem renderCounter_eq (slot : Slot) :
    renderCounter slot = ofBlocks (counterBlocks slot) := by
  simp [renderCounter, counterBlocks]

theorem renderConfigure_eq (policy : NamePolicy) (c : Configure) :
    renderConfigure c.slot (writeMethodParams policy c.typeParams) (policy.writeWhere c.typeParams)
        (policy.write c.type) (c.cast.map policy.write) =
      ofBlocks (c.blocks policy) := by
  have hheader : "internal fun " ++ writeMethodParams policy c.typeParams ++ c.slot.configure ++
      "(behavior: " ++ policy.write c.type ++ ")" ++ policy.writeWhere c.typeParams =
    c.header policy := rfl
  unfold renderConfigure Configure.blocks
  rw [hheader]
  cases c.cast with
  | none => simp
  | some storage => simp [uncheckedCast]

theorem renderProperty_eq (policy : NamePolicy) (b : Blueprint) (s : PropertySlots) :
    renderProperty policy b s.property s.getter s.setter =
      ofBlocks ((PropertyMember.ofSlots b s).blocks policy) := by
  have hconfigure (slot : Slot) (type : Ty) :
      renderConfigure slot "" "" (policy.write type) none =
        ofBlocks (Configure.blocks policy ⟨slot, [], type, none⟩) :=
    renderConfigure_eq policy ⟨slot, [], type, none⟩
  unfold renderProperty PropertyMember.blocks PropertyMember.overrideBlocks
  obtain ⟨p, getter, setter⟩ := s
  cases setter <;>
    cases hmutable : p.isMutable <;>
    simp [hmutable, hconfigure, renderCounter_eq, PropertyMember.ofSlots, PropertyMember.behaviors,
      PropertyMember.configures, Block.spaced, Behavior.block, countBlock]

theorem write_argument (policy : NamePolicy) (erased : List String) (p : Blueprint.Parameter) :
    (FunctionMember.argument erased p).write policy =
      if p.valueType.mentionsAny erased then
        Identifier.quoted p.name ++ " as " ++ policy.write (p.valueType.erase erased)
      else Identifier.quoted p.name := by
  unfold Argument.write FunctionMember.argument
  by_cases htouched : p.valueType.mentionsAny erased <;> simp [htouched]

theorem casts_eq_any (b : Blueprint) (f : Blueprint.Function) (slot : Slot) :
    (FunctionMember.ofSlot b ⟨f, slot⟩).casts =
      ((f.parameters.any fun p => p.valueType.mentionsAny (b.erasedNames f)) ||
        (!f.result.isUnit && f.result.mentionsAny (b.erasedNames f))) := by
  have hargument (p : Blueprint.Parameter) :
      (FunctionMember.argument (b.erasedNames f) p).cast.isSome =
        p.valueType.mentionsAny (b.erasedNames f) := by
    unfold FunctionMember.argument
    by_cases htouched : p.valueType.mentionsAny (b.erasedNames f) <;> simp [htouched]
  unfold FunctionMember.casts FunctionMember.ofSlot
  simp only [List.any_map, Function.comp_def, hargument]
  congr 1
  split
  · next h => simp [h]
  · next h => simp [h]

theorem lastLine_ofSlot (policy : NamePolicy) (b : Blueprint) (f : Blueprint.Function) (slot : Slot) :
    let m := FunctionMember.ofSlot b ⟨f, slot⟩
    m.lastLine policy =
      if f.result.isUnit then m.call policy
      else if !f.result.isUnit && f.result.mentionsAny (b.erasedNames f) then
        "return " ++ m.call policy ++ " as " ++ policy.write f.result
      else "return " ++ m.call policy := by
  intro m
  unfold FunctionMember.lastLine
  by_cases hunit : f.result.isUnit
  · simp [m, FunctionMember.ofSlot, hunit]
  · by_cases htouched : f.result.mentionsAny (b.erasedNames f) <;>
      simp [m, FunctionMember.ofSlot, hunit, htouched]

theorem renderOverride_eq (policy : NamePolicy) (b : Blueprint) (f : Blueprint.Function) (slot : Slot) :
    renderOverride policy b f slot =
      ofBlocks ((FunctionMember.ofSlot b ⟨f, slot⟩).overrideBlocks policy) := by
  have hcasts := casts_eq_any b f slot
  have hlast := lastLine_ofSlot policy b f slot
  have hcall : (FunctionMember.ofSlot b ⟨f, slot⟩).call policy = slot.behavior ++ "(" ++
      Text.joinWith ", " (f.parameters.map fun p =>
        (FunctionMember.argument (b.erasedNames f) p).write policy) ++ ")" := by
    unfold FunctionMember.call FunctionMember.ofSlot
    rw [List.map_map]
    rfl
  have hheader : "override " ++ (if f.isSuspend then "suspend " else "") ++ "fun " ++
      writeMethodParams policy f.typeParams ++ Identifier.quoted f.name ++
      "(" ++ Text.joinWith ", " (f.parameters.map (writeParameter policy)) ++ ")" ++
      (if f.result.isUnit then "" else ": " ++ policy.write f.result) ++
      policy.writeWhere f.typeParams = (FunctionMember.ofSlot b ⟨f, slot⟩).header policy := rfl
  unfold renderOverride FunctionMember.overrideBlocks
  dsimp only
  rw [← hcasts, hheader, hlast]
  simp only [← write_argument]
  rw [← hcall]
  have hslot : (FunctionMember.ofSlot b ⟨f, slot⟩).behavior.slot = slot := rfl
  -- Each case of the last line is one call, with or without the annotation in front.
  by_cases hcast : (FunctionMember.ofSlot b ⟨f, slot⟩).casts <;>
    by_cases hunit : f.result.isUnit <;>
    by_cases htouched : f.result.mentionsAny (b.erasedNames f) <;>
    simp [hcast, hunit, htouched, uncheckedCast, hslot, countBlock]

theorem renderFunction_eq (policy : NamePolicy) (b : Blueprint) (s : FunctionSlot) :
    renderFunction policy b s.function s.slot =
      ofBlocks ((FunctionMember.ofSlot b s).blocks policy) := by
  obtain ⟨f, slot⟩ := s
  let m := FunctionMember.ofSlot b ⟨f, slot⟩
  have hcast : m.configure.cast.map policy.write =
      if f.signatureType.erase (b.erasedNames f) = f.signatureType then none
      else some (policy.write (f.signatureType.erase (b.erasedNames f))) := by
    dsimp only [m, FunctionMember.ofSlot]
    split <;> rfl
  have hconfigure : renderConfigure slot (writeMethodParams policy f.typeParams)
      (policy.writeWhere f.typeParams) (policy.write f.signatureType)
      (m.configure.cast.map policy.write) = ofBlocks (m.configure.blocks policy) :=
    renderConfigure_eq policy m.configure
  have hbehavior : m.behavior.block policy = .line ("private var " ++ slot.behavior ++ ": " ++
      policy.write (f.signatureType.erase (b.erasedNames f)) ++ " = " ++
        (functionInitial b f).write policy (unconfigured b f.name slot)) := rfl
  have hcounter : counterBlocks m.behavior.slot = counterBlocks slot := rfl
  unfold renderFunction FunctionMember.blocks
  dsimp only
  rw [← hcast, hconfigure, renderCounter_eq, renderOverride_eq, hbehavior, hcounter]
  simp [Block.spaced, m]

theorem renderProperties_eq (policy : NamePolicy) (b : Blueprint) (isFirst : Bool) :
    renderProperties policy b (.ofTable (.ofBlueprint b)) isFirst = do
      ofBlocks (Block.apart isFirst
        ((SlotTable.ofBlueprint b).properties.map fun s => (PropertyMember.ofSlots b s).blocks policy))
      return isFirst && (SlotTable.ofBlueprint b).properties.isEmpty := by
  rw [renderProperties, ← SlotTable.map_property_ofBlueprint b,
    ← List.isEmpty_map, ← separated_ofBlocks, List.map_map]
  congr 1
  refine map_zipIdx_eq fun index entry hentry => ?_
  dsimp only
  rw [SlotLists.getter_ofTable hentry, SlotLists.setter_ofTable hentry, find_ok, pure_bind, find_ok,
    pure_bind, renderProperty_eq, Function.comp_apply]

theorem renderFunctions_eq (policy : NamePolicy) (b : Blueprint) (isFirst : Bool) :
    renderFunctions policy b (.ofTable (.ofBlueprint b)) isFirst = do
      ofBlocks (Block.apart isFirst
        ((SlotTable.ofBlueprint b).functions.map fun s => (FunctionMember.ofSlot b s).blocks policy))
      return isFirst && (SlotTable.ofBlueprint b).functions.isEmpty := by
  rw [renderFunctions, ← SlotTable.map_function_ofBlueprint b,
    ← List.isEmpty_map, ← separated_ofBlocks, List.map_map]
  congr 1
  refine map_zipIdx_eq fun index entry hentry => ?_
  dsimp only
  rw [SlotLists.function_ofTable hentry, find_ok, pure_bind, renderFunction_eq, Function.comp_apply]

theorem renderImplementation_eq (policy : NamePolicy) (b : Blueprint) :
    renderImplementation policy b (.ofTable (.ofBlueprint b)) =
      ofBlocks ((Implementation.ofBlueprint b (.ofBlueprint b)).blocks policy) := by
  have hheader : "class " ++ implementationClass b.name ++
      policy.writeTypeParams false b.classTypeParams ++ " : " ++ policy.writeName b.subject ++
      NamePolicy.writeArguments b.classTypeParams ++
      (match b.supertype with
        | .interface => ""
        | .baseClass => "()") ++
      policy.writeWhere b.classTypeParams =
    (Implementation.ofBlueprint b (.ofBlueprint b)).header policy := rfl
  unfold renderImplementation Implementation.blocks
  rw [hheader, Block.spaced_eq_apart, Block.apart_append]
  simp [renderProperties_eq, renderFunctions_eq, Implementation.ofBlueprint, Function.comp_def]

end Fake

end KotlinFakes
