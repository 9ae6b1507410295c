import KotlinFakes.Fake.File
import KotlinFakes.Proofs.Written.Script

/-!
# Scripts of generated files

The script of each part of a file, down to the names in its default values. Laid out, the script of a file
is its text.
-/

namespace KotlinFakes

/-! ## Sheets -/

namespace Layout

/-- A block with its texts as scripts. -/
inductive Sheet where
  | line (script : Script)
  | blank
  | block (header : Script) (body : List Sheet)
  | nested (body : List Sheet)

namespace Sheet

/-- A line without names of the declaration. -/
def fixed (text : String) : Sheet := .line [.fixed text]

mutual
def toBlock : Sheet → Block
  | .line script => .line script.text
  | .blank => .blank
  | .block header body => .block header.text (toBlocks body)
  | .nested body => .nested (toBlocks body)
def toBlocks : List Sheet → List Block
  | [] => []
  | s :: ss => s.toBlock :: toBlocks ss
end

mutual
/-- The script of a sheet that is laid out at the given level. -/
def script (level : Nat) : Sheet → Script
  | .line text => .fixed (Writer.marginOf level) :: text ++ [.fixed "\n"]
  | .blank => [.fixed "\n"]
  | .block header body =>
    .fixed (Writer.marginOf level) :: header ++ .fixed " \x7b\n" :: scriptAll (level + 1) body ++
      [.fixed (Writer.marginOf level ++ "\x7d\n")]
  | .nested body => scriptAll (level + 1) body
def scriptAll (level : Nat) : List Sheet → Script
  | [] => []
  | s :: ss => s.script level ++ scriptAll level ss
end

/-- Groups of sheets with an empty line between each two of them. -/
def spaced : List (List Sheet) → List Sheet
  | [] => []
  | [group] => group
  | group :: next :: rest => group ++ .blank :: spaced (next :: rest)

@[simp] theorem toBlock_fixed (text : String) : (fixed text).toBlock = .line text := by
  simp [fixed, toBlock, Piece.text]

theorem toBlocks_eq_map (ss : List Sheet) : toBlocks ss = ss.map toBlock := by
  induction ss with
  | nil => rw [toBlocks, List.map_nil]
  | cons s ss ih => rw [toBlocks, ih, List.map_cons]

@[simp] theorem toBlocks_nil : toBlocks [] = [] := by rw [toBlocks]

@[simp] theorem toBlocks_cons (s : Sheet) (ss : List Sheet) :
    toBlocks (s :: ss) = s.toBlock :: toBlocks ss := by rw [toBlocks]

@[simp] theorem toBlocks_append (ss ss' : List Sheet) :
    toBlocks (ss ++ ss') = toBlocks ss ++ toBlocks ss' := by
  simp only [toBlocks_eq_map, List.map_append]

@[simp] theorem toBlocks_spaced (groups : List (List Sheet)) :
    toBlocks (spaced groups) = Block.spaced (groups.map toBlocks) := by
  induction groups with
  | nil => simp [spaced, Block.spaced]
  | cons group rest ih =>
      cases rest with
      | nil => simp [spaced, Block.spaced]
      | cons next rest => simpa [spaced, Block.spaced, toBlock] using ih

/-! ### Laying out -/

theorem run_append (w : Writer) (steps more : List Step) :
    w.run (steps ++ more) = (w.run steps).run more := List.foldl_append ..

mutual
/-- A writer that lays out a sheet writes its script and is back at its level. -/
theorem run_steps : ∀ (s : Sheet) (w : Writer),
    w.run s.toBlock.steps = { w with output := w.output ++ (s.script w.level).text }
  | .line text, w => by
      simp [toBlock, Block.steps, Writer.run, Writer.step, script, Piece.text, String.append_assoc]
  | .blank, w => by
      simp [toBlock, Block.steps, Writer.run, Writer.step, script, Piece.text]
  | .block header body, w => by
      rw [toBlock, Block.steps, run_append, run_append, run_stepsAll body]
      simp [openSteps, closeSteps, Writer.run, Writer.step, script, Piece.text, String.append_assoc]
  | .nested body, w => by
      rw [toBlock, Block.steps, List.cons_append, ← List.singleton_append, run_append, run_append,
        run_stepsAll body]
      simp [Writer.run, Writer.step, script]
theorem run_stepsAll : ∀ (ss : List Sheet) (w : Writer),
    w.run (Block.stepsAll (toBlocks ss)) =
      { w with output := w.output ++ (scriptAll w.level ss).text }
  | [], w => by simp [Block.stepsAll, Writer.run, scriptAll]
  | s :: ss, w => by
      rw [toBlocks, Block.stepsAll, run_append, run_steps s, run_stepsAll ss]
      simp [scriptAll, String.append_assoc]
end

theorem text_scriptAll (ss : List Sheet) : (scriptAll 0 ss).text = Block.text (toBlocks ss) := by
  rw [Block.text, run_stepsAll]
  simp [Writer.start]

/-! ### Escaped sheets -/

section Escaped

variable {level : Nat} {text header : Script} {body ss ss' : List Sheet} {s : Sheet}

@[simp] theorem isEscaped_line : (script level (.line text)).IsEscaped ↔ text.IsEscaped := by
  simp [script]

@[simp] theorem isEscaped_fixed (text : String) : (script level (fixed text)).IsEscaped := by
  simp [fixed]

@[simp] theorem isEscaped_blank : (script level .blank).IsEscaped := by simp [script]

@[simp] theorem isEscaped_block : (script level (.block header body)).IsEscaped ↔
    header.IsEscaped ∧ (scriptAll (level + 1) body).IsEscaped := by
  simp [script]

@[simp] theorem isEscaped_nested : (script level (.nested body)).IsEscaped ↔
    (scriptAll (level + 1) body).IsEscaped := by
  simp [script]

@[simp] theorem isEscaped_scriptAll :
    (scriptAll level ss).IsEscaped ↔ ∀ s ∈ ss, (s.script level).IsEscaped := by
  induction ss with
  | nil => simp [scriptAll]
  | cons s ss ih => simp [scriptAll, ih]

@[simp] theorem isEscaped_spaced {groups : List (List Sheet)} :
    (∀ s ∈ spaced groups, (s.script level).IsEscaped) ↔
      ∀ group ∈ groups, ∀ s ∈ group, (s.script level).IsEscaped := by
  induction groups with
  | nil => simp [spaced]
  | cons group rest ih =>
      cases rest with
      | nil => simp [spaced]
      | cons next rest =>
          rw [List.forall_mem_cons, ← ih]
          simp only [spaced, List.forall_mem_append, List.forall_mem_cons, isEscaped_blank, true_and]

end Escaped

end Sheet

end Layout

/-! ## Default values -/

namespace Default

/-- The script of a closure that ignores its arguments, with the script of its body. -/
def closureScript (arity : Nat) (body : Script) : Script :=
  .fixed (if arity = 0 then "\x7b " else "\x7b " ++ holes arity ++ " -> ") :: body ++
    [.fixed " \x7d"]

mutual
def script (policy : NamePolicy) (message : String) : Default → Script
  | .null => [.fixed "null"]
  | .zero p => [.fixed (p.zero?.getD (failureText message))]
  | .emptyArray simple => [.bare simple, .fixed "(0)"]
  | .call factory typeArgs =>
    .fixed factory.name :: Script.bracketed (Ty.scripts policy typeArgs) ++ [.fixed "()"]
  | .success name payload =>
    .bare (policy.writeName name) :: .fixed ".success(" :: script policy message payload ++
      [.fixed ")"]
  | .tuple name parts =>
    .bare (policy.writeName name) :: .fixed "(" ::
      Script.joinWith ", " (scripts policy message parts) ++ [.fixed ")"]
  | .identity => [.fixed "\x7b it \x7d"]
  | .runBlock => [.fixed "\x7b block -> block() \x7d"]
  | .idle arity => [.fixed (idleText arity)]
  | .closure arity body => closureScript arity (script policy message body)
  | .failure => [.fixed (failureText message)]
def scripts (policy : NamePolicy) (message : String) : List Default → List Script
  | [] => []
  | d :: ds => script policy message d :: scripts policy message ds
end

theorem scripts_eq_map (policy : NamePolicy) (message : String) (ds : List Default) :
    scripts policy message ds = ds.map (script policy message) := by
  induction ds with
  | nil => rw [scripts, List.map_nil]
  | cons d ds ih => rw [scripts, ih, List.map_cons]

@[simp] theorem text_closureScript (arity : Nat) (body : Script) :
    (closureScript arity body).text = closureText arity body.text := by
  unfold closureScript closureText
  split <;> simp [Piece.text, String.append_assoc]

mutual
@[simp] theorem text_script (policy : NamePolicy) (message : String) : ∀ d : Default,
    (d.script policy message).text = d.write policy message
  | .null | .zero _ | .emptyArray _ | .identity | .runBlock | .idle _ | .failure => by
      simp [script, write, Piece.text]
  | .call factory typeArgs => by
      simp [script, write, Piece.text, Ty.text_scripts, String.append_assoc]
  | .success name payload => by
      simp [script, write, Piece.text, text_script policy message payload, String.append_assoc]
  | .tuple name parts => by
      simp [script, write, Piece.text, text_scripts policy message parts, String.append_assoc]
  | .closure arity body => by simp [script, write, text_script policy message body]
theorem text_scripts (policy : NamePolicy) (message : String) : ∀ ds : List Default,
    (scripts policy message ds).map Script.text = writeAll policy message ds
  | [] => by rw [scripts, writeAll, List.map_nil]
  | d :: ds => by
      rw [scripts, writeAll, List.map_cons, text_script policy message d,
        text_scripts policy message ds]
end

end Default

namespace Fake

open Layout

/-! ## Behaviors -/

def SuperCall.script (call : SuperCall) : Script :=
  let names := call.arguments.map fun p => [Piece.quoted p.name]
  let args := call.arguments.map fun p =>
    [Piece.fixed (if p.isVararg then "*" else ""), .quoted p.name]
  let body := .fixed "super." :: .quoted call.function ::
    .fixed (NamePolicy.bracketed (List.replicate call.typeArgs "Any?") ++ "(") ::
    Script.joinWith ", " args ++ [.fixed ")"]
  if names.isEmpty then .fixed "\x7b " :: body ++ [.fixed " \x7d"]
  else .fixed "\x7b " :: Script.joinWith ", " names ++ .fixed " -> " :: body ++ [.fixed " \x7d"]

/-- The script of the closure that a behavior starts with. -/
def Initial.script (policy : NamePolicy) (message : String) : Initial → Script
  | .readSuper property => [.fixed "\x7b super.", .quoted property, .fixed " \x7d"]
  | .writeSuper property =>
    [.fixed "\x7b value -> super.", .quoted property, .fixed " = value \x7d"]
  | .remember getter => [.fixed ("\x7b value -> " ++ getter.behavior ++ " = \x7b value \x7d \x7d")]
  | .callSuper call => call.script
  | .failing arity => [.fixed (Default.closureText arity (Default.failureText message))]
  | .value default => default.script policy message

/-- The script of the line that declares the field of a behavior. -/
def Behavior.sheet (policy : NamePolicy) (behavior : Behavior) : Sheet :=
  .line (.fixed ("private var " ++ behavior.slot.behavior ++ ": ") :: behavior.type.script policy ++
    .fixed " = " :: behavior.initial.script policy behavior.message)

@[simp] theorem SuperCall.text_script (call : SuperCall) : call.script.text = call.write := by
  have hnames : (call.arguments.map fun p => [Piece.quoted p.name]).map Script.text =
      call.arguments.map fun p => Identifier.quoted p.name := by
    simp [Piece.text]
  have hargs : (call.arguments.map fun p =>
      [Piece.fixed (if p.isVararg then "*" else ""), .quoted p.name]).map Script.text =
        call.arguments.map fun p => (if p.isVararg then "*" else "") ++ Identifier.quoted p.name := by
    simp [Piece.text]
  simp only [SuperCall.script, SuperCall.write, List.isEmpty_map]
  split <;>
    simp only [Script.text_cons, Script.text_append, Script.text_nil, Script.text_joinWith, hnames,
      hargs, Piece.text, String.append_assoc, String.append_empty]

@[simp] theorem Initial.text_script (policy : NamePolicy) (message : String) (initial : Initial) :
    (initial.script policy message).text = initial.write policy message := by
  unfold script write
  cases initial with
  | callSuper call => exact call.text_script
  | value default => exact default.text_script policy message
  | readSuper | writeSuper | remember | failing =>
      simp only [Script.text_cons, Script.text_nil, Piece.text, String.append_assoc,
        String.append_empty]

@[simp] theorem Behavior.toBlock_sheet (policy : NamePolicy) (behavior : Behavior) :
    (behavior.sheet policy).toBlock = behavior.block policy := by
  simp [sheet, Behavior.block, Sheet.toBlock, Piece.text, String.append_assoc]

/-! ## Members -/

/-- The script of the type parameters of a method. -/
def methodParamScript (policy : NamePolicy) (params : List TypeParam) : Script :=
  if params.isEmpty then [] else TypeParam.listScript policy false params ++ [.fixed " "]

/-- The script of the header of a method that installs a behavior. -/
def methodScript (policy : NamePolicy) (keywords : String) (name : Piece) (params : List TypeParam)
    (type : Ty) : Script :=
  .fixed keywords :: methodParamScript policy params ++ name :: .fixed "(behavior: " ::
    type.script policy ++ .fixed ")" :: TypeParam.whereScript policy params

def counterSheets (slot : Slot) : List Sheet :=
  [.fixed ("private val " ++ slot.counterState ++ " = MutableStateFlow(0)"),
    .fixed ("val " ++ slot.counter ++ ": StateFlow<Int> get() = " ++ slot.counterState)]

def countSheet (slot : Slot) : Sheet := .fixed (slot.counterState ++ ".update \x7b it + 1 \x7d")

def uncheckedCastSheet : Sheet := .fixed "@Suppress(\"UNCHECKED_CAST\")"

def Configure.headerScript (policy : NamePolicy) (c : Configure) : Script :=
  methodScript policy "internal fun " (.fixed c.slot.configure) c.typeParams c.type

def Configure.sheets (policy : NamePolicy) (c : Configure) : List Sheet :=
  match c.cast with
  | none => [.block (c.headerScript policy) [.fixed (c.slot.behavior ++ " = behavior")]]
  | some storage =>
    [uncheckedCastSheet, .block (c.headerScript policy)
      [.line (.fixed (c.slot.behavior ++ " = behavior as ") :: storage.script policy)]]

def PropertyMember.overrideSheets (policy : NamePolicy) (m : PropertyMember) : List Sheet :=
  [.line (.fixed ("override " ++ if m.isMutable then "var " else "val ") :: .quoted m.name ::
      .fixed ": " :: m.type.script policy),
    .nested
      (.block [.fixed "get()"]
          [countSheet m.getter.slot, .fixed ("return " ++ m.getter.slot.behavior ++ "()")] ::
        m.setter.toList.map fun setter =>
          .block [.fixed "set(value)"]
            [countSheet setter.slot, .fixed (setter.slot.behavior ++ "(value)")])]

def PropertyMember.sheets (policy : NamePolicy) (m : PropertyMember) : List Sheet :=
  Sheet.spaced
    ((m.behaviors.flatMap (fun behavior => counterSheets behavior.slot) ++
        m.behaviors.map (Behavior.sheet policy)) ::
      m.overrideSheets policy ::
      m.configures.map (Configure.sheets policy))

def parameterScript (policy : NamePolicy) (p : Blueprint.Parameter) : Script :=
  .fixed (if p.isVararg then "vararg " else "") :: .quoted p.name :: .fixed ": " ::
    p.type.script policy

def Argument.script (policy : NamePolicy) (a : Argument) : Script :=
  match a.cast with
  | none => [.quoted a.name]
  | some type => .quoted a.name :: .fixed " as " :: type.script policy

def FunctionMember.headerScript (policy : NamePolicy) (m : FunctionMember) : Script :=
  let f := m.function
  .fixed ("override " ++ (if f.isSuspend then "suspend " else "") ++ "fun ") ::
    methodParamScript policy f.typeParams ++ .quoted f.name :: .fixed "(" ::
    Script.joinWith ", " (f.parameters.map (parameterScript policy)) ++ .fixed ")" ::
    (if f.result.isUnit then [] else .fixed ": " :: f.result.script policy) ++
    TypeParam.whereScript policy f.typeParams

def FunctionMember.callScript (policy : NamePolicy) (m : FunctionMember) : Script :=
  .fixed (m.behavior.slot.behavior ++ "(") ::
    Script.joinWith ", " (m.arguments.map (Argument.script policy)) ++ [.fixed ")"]

/-- The script of the last line of an override. -/
def FunctionMember.lastScript (policy : NamePolicy) (m : FunctionMember) : Script :=
  if m.function.result.isUnit then m.callScript policy
  else
    match m.resultCast with
    | none => .fixed "return " :: m.callScript policy
    | some type => .fixed "return " :: m.callScript policy ++ .fixed " as " :: type.script policy

def FunctionMember.overrideSheets (policy : NamePolicy) (m : FunctionMember) : List Sheet :=
  (if m.casts then [uncheckedCastSheet] else []) ++
    [.block (m.headerScript policy) [countSheet m.behavior.slot, .line (m.lastScript policy)]]

def FunctionMember.sheets (policy : NamePolicy) (m : FunctionMember) : List Sheet :=
  Sheet.spaced
    [counterSheets m.behavior.slot ++ [m.behavior.sheet policy], m.overrideSheets policy,
      m.configure.sheets policy]

section Members

variable (policy : NamePolicy)

@[simp] theorem text_methodParamScript (params : List TypeParam) :
    (methodParamScript policy params).text = writeMethodParams policy params := by
  cases params with
  | nil => rfl
  | cons p ps =>
      have hne : policy.writeTypeParams false (p :: ps) ≠ "" := fun h => by
        simpa [NamePolicy.writeTypeParams, NamePolicy.bracketed] using congrArg String.toList h
      simp [methodParamScript, writeMethodParams, hne, Piece.text]

theorem text_methodScript (keywords : String) (name : Piece) (params : List TypeParam) (type : Ty) :
    (methodScript policy keywords name params type).text =
      keywords ++ writeMethodParams policy params ++ name.text ++ "(behavior: " ++
        policy.write type ++ ")" ++ policy.writeWhere params := by
  simp [methodScript, Piece.text, String.append_assoc]

@[simp] theorem Configure.toBlocks_sheets (c : Configure) :
    Sheet.toBlocks (c.sheets policy) = c.blocks policy := by
  have hheader : (c.headerScript policy).text = c.header policy := text_methodScript ..
  unfold sheets blocks
  cases c.cast with
  | none => simp [Sheet.toBlock, hheader]
  | some storage => simp [Sheet.toBlock, hheader, uncheckedCastSheet, uncheckedCast, Piece.text]

theorem PropertyMember.toBlocks_overrideSheets (m : PropertyMember) :
    Sheet.toBlocks (m.overrideSheets policy) = m.overrideBlocks policy := by
  cases hsetter : m.setter <;>
    simp [overrideSheets, overrideBlocks, Sheet.toBlock, countSheet, countBlock, hsetter, Piece.text,
      String.append_assoc]

@[simp] theorem toBlocks_counterSheets (slot : Slot) :
    Sheet.toBlocks (counterSheets slot) = counterBlocks slot := by
  simp [counterSheets, counterBlocks]

@[simp] theorem PropertyMember.toBlocks_sheets (m : PropertyMember) :
    Sheet.toBlocks (m.sheets policy) = m.blocks policy := by
  have hcounters : Sheet.toBlocks (m.behaviors.flatMap fun behavior => counterSheets behavior.slot) =
      m.behaviors.flatMap fun behavior => counterBlocks behavior.slot := by
    simp only [Sheet.toBlocks_eq_map, List.map_flatMap, ← toBlocks_counterSheets]
  have hfields : Sheet.toBlocks (m.behaviors.map (Behavior.sheet policy)) =
      m.behaviors.map (Behavior.block policy) := by
    simp [Sheet.toBlocks_eq_map]
  simp [sheets, blocks, hcounters, hfields, toBlocks_overrideSheets, Function.comp_def]

theorem text_parameterScript (p : Blueprint.Parameter) :
    (parameterScript policy p).text = writeParameter policy p := by
  simp [parameterScript, writeParameter, Piece.text, String.append_assoc]

theorem Argument.text_script (a : Argument) : (a.script policy).text = a.write policy := by
  unfold script write
  cases a.cast <;> simp [Piece.text, String.append_assoc]

theorem FunctionMember.text_headerScript (m : FunctionMember) :
    (m.headerScript policy).text = m.header policy := by
  have hparameters : (m.function.parameters.map (parameterScript policy)).map Script.text =
      m.function.parameters.map (writeParameter policy) := by
    simp [text_parameterScript]
  unfold headerScript header
  by_cases hunit : m.function.result.isUnit <;>
    simp [hunit, hparameters, Piece.text, String.append_assoc]

theorem FunctionMember.text_callScript (m : FunctionMember) :
    (m.callScript policy).text = m.call policy := by
  have harguments : (m.arguments.map (Argument.script policy)).map Script.text =
      m.arguments.map (Argument.write policy) := by
    simp [Argument.text_script]
  simp [callScript, call, harguments, Piece.text, String.append_assoc]

theorem FunctionMember.text_lastScript (m : FunctionMember) :
    (m.lastScript policy).text = m.lastLine policy := by
  unfold lastScript lastLine
  split
  · exact m.text_callScript policy
  · cases m.resultCast <;> simp [text_callScript, Piece.text, String.append_assoc]

@[simp] theorem FunctionMember.toBlocks_sheets (m : FunctionMember) :
    Sheet.toBlocks (m.sheets policy) = m.blocks policy := by
  have hoverride : Sheet.toBlocks (m.overrideSheets policy) = m.overrideBlocks policy := by
    unfold overrideSheets overrideBlocks
    split <;>
      simp [Sheet.toBlock, text_headerScript, text_lastScript, uncheckedCastSheet, uncheckedCast,
        countSheet, countBlock]
  simp [sheets, blocks, hoverride]

end Members

/-! ## Declarations -/

def Implementation.headerScript (policy : NamePolicy) (c : Implementation) : Script :=
  .fixed ("class " ++ implementationClass c.subject.simple) ::
    TypeParam.listScript policy false c.typeParams ++ .fixed " : " ::
    .bare (policy.writeName c.subject) :: TypeParam.argumentScript c.typeParams ++
    .fixed (match c.supertype with
      | .interface => ""
      | .baseClass => "()") ::
    TypeParam.whereScript policy c.typeParams

def Implementation.sheets (policy : NamePolicy) (c : Implementation) : List Sheet :=
  [.block (c.headerScript policy)
    (Sheet.spaced
      (c.properties.map (PropertyMember.sheets policy) ++
        c.functions.map (FunctionMember.sheets policy)))]

def Maker.fakeTypeScript (m : Maker) : Script :=
  .fixed (implementationClass m.subject) :: TypeParam.argumentScript m.typeParams

def Maker.configurationTypeScript (m : Maker) : Script :=
  .fixed (configurationClass m.subject) :: TypeParam.argumentScript m.typeParams

def Maker.headerScript (policy : NamePolicy) (m : Maker) : Script :=
  (if m.isGeneric then
      .fixed "inline fun " :: TypeParam.listScript policy true m.typeParams ++ [.fixed " "]
    else [.fixed "fun "]) ++
    .fixed (factoryFunction m.subject ++ "(configure: ") :: m.configurationTypeScript ++
    .fixed ".() -> Unit = \x7b\x7d): " :: m.fakeTypeScript ++
    TypeParam.whereScript policy m.typeParams

def Maker.sheets (policy : NamePolicy) (m : Maker) : List Sheet :=
  [.block (m.headerScript policy)
    [.line (.fixed "return " :: m.fakeTypeScript ++ .fixed "().apply \x7b " ::
      m.configurationTypeScript ++ [.fixed "(this).configure() \x7d"])]]

def ConfigurationMethod.sheets (policy : NamePolicy) (m : ConfigurationMethod) : List Sheet :=
  [.block (methodScript policy "fun " (.quoted m.slot.base) m.typeParams m.type)
    [.fixed ("fake." ++ m.slot.configure ++ "(behavior)")]]

def Configuration.headerScript (policy : NamePolicy) (c : Configuration) : Script :=
  .fixed ("class " ++ configurationClass c.subject) ::
    TypeParam.listScript policy false c.typeParams ++
    .fixed ("(private val fake: " ++ implementationClass c.subject) ::
    TypeParam.argumentScript c.typeParams ++ .fixed ")" :: TypeParam.whereScript policy c.typeParams

def Configuration.sheets (policy : NamePolicy) (c : Configuration) : List Sheet :=
  [.block (c.headerScript policy)
    (Sheet.spaced (c.methods.map (ConfigurationMethod.sheets policy)))]

section Declarations

variable (policy : NamePolicy)

@[simp] theorem Implementation.toBlocks_sheets (c : Implementation) :
    Sheet.toBlocks (c.sheets policy) = c.blocks policy := by
  have hheader : (c.headerScript policy).text = c.header policy := by
    unfold headerScript header
    cases c.supertype <;> simp [Piece.text, String.append_assoc]
  simp [sheets, blocks, Sheet.toBlock, hheader, Function.comp_def]

@[simp] theorem Maker.toBlocks_sheets (m : Maker) :
    Sheet.toBlocks (m.sheets policy) = m.blocks policy := by
  have hfake : m.fakeTypeScript.text = m.fakeType := by
    simp [fakeTypeScript, fakeType, Piece.text]
  have hconfiguration : m.configurationTypeScript.text = m.configurationType := by
    simp [configurationTypeScript, configurationType, Piece.text]
  have hheader : (m.headerScript policy).text = m.header policy := by
    unfold headerScript header
    split <;> simp [hfake, hconfiguration, Piece.text, String.append_assoc]
  simp [sheets, blocks, Sheet.toBlock, hheader, hfake, hconfiguration, Piece.text, String.append_assoc]

@[simp] theorem Configuration.toBlocks_sheets (c : Configuration) :
    Sheet.toBlocks (c.sheets policy) = c.blocks policy := by
  have hheader : (c.headerScript policy).text = c.header policy := by
    simp [headerScript, header, Piece.text, String.append_assoc]
  have hmethod (m : ConfigurationMethod) : Sheet.toBlocks (m.sheets policy) = m.blocks policy := by
    simp [ConfigurationMethod.sheets, ConfigurationMethod.blocks, ConfigurationMethod.header,
      text_methodScript, Sheet.toBlock, Piece.text, Slot.dsl]
  simp [sheets, blocks, Sheet.toBlock, hheader, hmethod, Function.comp_def]

end Declarations

end Fake

/-! ## Files -/

namespace FakeFile

open Layout

/-- The script of the lines above the generated declarations. -/
def preambleScript (file : FakeFile) : Script :=
  .fixed (match file.banner with
    | some banner => "// " ++ banner ++ "\n"
    | none => "") ::
    (if file.package = "" then [] else [.fixed "package ", .bare file.package, .fixed "\n\n"]) ++
    if file.imports.isEmpty then []
    else file.imports.flatMap (fun path => [.fixed "import ", .bare path, .fixed "\n"]) ++
      [.fixed "\n"]

/-- The text of a file in pieces, with the names marked that it takes from the declaration. -/
def script (file : FakeFile) : Script :=
  file.preambleScript ++ Sheet.scriptAll 0 (file.implementation.sheets file.policy) ++
    .fixed "\n" :: Sheet.scriptAll 0 (file.maker.sheets file.policy) ++
    .fixed "\n" :: Sheet.scriptAll 0 (file.configuration.sheets file.policy)

theorem text_preambleScript (file : FakeFile) : file.preambleScript.text = file.preamble := by
  have himports (paths : List String) :
      Script.text (paths.flatMap fun path => [.fixed "import ", .bare path, .fixed "\n"]) =
        String.join (paths.map fun path => "import " ++ path ++ "\n") := by
    induction paths with
    | nil => simp
    | cons path paths ih => simp [ih, Piece.text, String.append_assoc]
  unfold preambleScript preamble
  by_cases hpackage : file.package = "" <;> by_cases hempty : file.imports = [] <;>
    cases file.banner <;> simp [hpackage, hempty, himports, Piece.text, String.append_assoc]

/-- The script of a file is its text. -/
theorem text_script (file : FakeFile) : file.script.text = file.text := by
  simp [script, text, text_preambleScript, Sheet.text_scriptAll, Piece.text, String.append_assoc]

end FakeFile

end KotlinFakes
