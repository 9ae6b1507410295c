import KotlinFakes.Proofs.Fake.Methods
import KotlinFakes.Proofs.Fake.Rendering

/-!
# Fragments

The three fragments of a file, rendered into contexts. Rendering them never panics, whatever the
blueprint: every look-up finds the slot of its member, and every level that is left was entered before.
The fragments make up the generated file, each ends at level zero, and in each the line of every header
has its closing brace at the same indentation.
-/

namespace KotlinFakes.Fake

open Layout Rendering

/-! ## The factory function -/

def renderMaker (policy : NamePolicy) (b : Blueprint) : Rendering Unit := do
  let fakeType := implementationClass b.name ++ NamePolicy.writeArguments b.classTypeParams
  let configurationType := configurationClass b.name ++ NamePolicy.writeArguments b.classTypeParams
  let keywords :=
    if b.generics.hasClassLevel then
      "inline fun " ++ policy.writeTypeParams true b.classTypeParams ++ " "
    else "fun "
  call (.openBlock (keywords ++ factoryFunction b.name ++ "(configure: " ++ configurationType ++
    ".() -> Unit = \x7b\x7d): " ++ fakeType ++ policy.writeWhere b.classTypeParams))
  call (.line ("return " ++ fakeType ++ "().apply \x7b " ++ configurationType ++
    "(this).configure() \x7d"))
  call .closeBlock

theorem renderMaker_eq (policy : NamePolicy) (b : Blueprint) :
    renderMaker policy b = ofBlocks ((Maker.ofBlueprint b).blocks policy) := by
  let m := Maker.ofBlueprint b
  have hheader : (if b.generics.hasClassLevel then
        "inline fun " ++ policy.writeTypeParams true b.classTypeParams ++ " "
      else "fun ") ++
      factoryFunction b.name ++ "(configure: " ++
      (configurationClass b.name ++ NamePolicy.writeArguments b.classTypeParams) ++
      ".() -> Unit = \x7b\x7d): " ++
      (implementationClass b.name ++ NamePolicy.writeArguments b.classTypeParams) ++
      policy.writeWhere b.classTypeParams = m.header policy := rfl
  unfold renderMaker Maker.blocks
  dsimp only
  rw [hheader]
  simp [m, Maker.ofBlueprint, Maker.fakeType, Maker.configurationType]

/-! ## The configuration class -/

/-- The methods of the configuration class, with the slots at the positions of their members. -/
def collectMethods (b : Blueprint) (slots : SlotLists) : Except Missing (List ConfigurationMethod) := do
  let ofProperties ← b.properties.zipIdx.mapM fun (p, index) => do
    let getter ← slots.getter index
    let setter ← slots.setter index
    return Configuration.propertyMethods ⟨p, getter, setter⟩
  let ofFunctions ← b.functions.zipIdx.mapM fun (f, index) => do
    let slot ← slots.function index
    return Configuration.functionMethod ⟨f, slot⟩
  return ofProperties.flatten ++ ofFunctions

def renderMethod (policy : NamePolicy) (m : ConfigurationMethod) : Rendering Unit := do
  call (.openBlock ("fun " ++ writeMethodParams policy m.typeParams ++ m.slot.dsl ++ "(behavior: " ++
    policy.write m.type ++ ")" ++ policy.writeWhere m.typeParams))
  call (.line ("fake." ++ m.slot.configure ++ "(behavior)"))
  call .closeBlock

def renderConfiguration (policy : NamePolicy) (b : Blueprint) (slots : SlotLists) : Rendering Unit := do
  call (.openBlock ("class " ++ configurationClass b.name ++
    policy.writeTypeParams false b.classTypeParams ++ "(private val fake: " ++
    implementationClass b.name ++ NamePolicy.writeArguments b.classTypeParams ++ ")" ++
    policy.writeWhere b.classTypeParams))
  let methods ← find (collectMethods b slots)
  let _ ← separated true (methods.map (renderMethod policy))
  call .closeBlock

theorem mapM_zipIdx {ε α β : Type} {entries : List ε} {f : ε → α} {found : α × Nat → Except Missing β}
    {g : ε → β}
    (h : ∀ index entry, entries[index]? = some entry → found (f entry, index) = .ok (g entry)) :
    (entries.map f).zipIdx.mapM found = .ok (entries.map g) := by
  have hfound := map_zipIdx_eq h
  calc (entries.map f).zipIdx.mapM found = ((entries.map f).zipIdx.map found).mapM id := by
        rw [List.mapM_map, Function.id_comp]
    _ = entries.mapM fun entry => pure (g entry) := by
        rw [hfound, List.mapM_map]
        rfl
    _ = .ok (entries.map g) := List.mapM_pure

theorem collectMethods_eq (b : Blueprint) :
    collectMethods b (.ofTable (.ofBlueprint b)) =
      .ok (Configuration.ofBlueprint b (.ofBlueprint b)).methods := by
  have hproperties : b.properties.zipIdx.mapM (fun (p, index) => do
        let getter ← (SlotLists.ofTable (.ofBlueprint b)).getter index
        let setter ← (SlotLists.ofTable (.ofBlueprint b)).setter index
        return Configuration.propertyMethods ⟨p, getter, setter⟩) =
      .ok ((SlotTable.ofBlueprint b).properties.map Configuration.propertyMethods) := by
    rw [← SlotTable.map_property_ofBlueprint b]
    refine mapM_zipIdx fun index entry hentry => ?_
    dsimp only
    rw [SlotLists.getter_ofTable hentry, SlotLists.setter_ofTable hentry]
    rfl
  have hfunctions : b.functions.zipIdx.mapM (fun (f, index) => do
        let slot ← (SlotLists.ofTable (.ofBlueprint b)).function index
        return Configuration.functionMethod ⟨f, slot⟩) =
      .ok ((SlotTable.ofBlueprint b).functions.map Configuration.functionMethod) := by
    rw [← SlotTable.map_function_ofBlueprint b]
    refine mapM_zipIdx fun index entry hentry => ?_
    dsimp only
    rw [SlotLists.function_ofTable hentry]
    rfl
  rw [collectMethods, hproperties, hfunctions, Configuration.ofBlueprint, List.flatMap_def]
  rfl

theorem renderMethod_eq (policy : NamePolicy) (m : ConfigurationMethod) :
    renderMethod policy m = ofBlocks (m.blocks policy) := by
  unfold renderMethod ConfigurationMethod.blocks
  simp [ConfigurationMethod.header]

theorem renderConfiguration_eq (policy : NamePolicy) (b : Blueprint) :
    renderConfiguration policy b (.ofTable (.ofBlueprint b)) =
      ofBlocks ((Configuration.ofBlueprint b (.ofBlueprint b)).blocks policy) := by
  let c := Configuration.ofBlueprint b (.ofBlueprint b)
  have hmethods : c.methods.map (renderMethod policy) =
      (c.methods.map (ConfigurationMethod.blocks policy)).map ofBlocks := by
    rw [List.map_map]
    exact List.map_congr_left fun m _ => renderMethod_eq policy m
  have hheader : "class " ++ configurationClass b.name ++
      policy.writeTypeParams false b.classTypeParams ++ "(private val fake: " ++
      implementationClass b.name ++ NamePolicy.writeArguments b.classTypeParams ++ ")" ++
      policy.writeWhere b.classTypeParams = c.header policy := rfl
  unfold renderConfiguration Configuration.blocks
  rw [hheader, collectMethods_eq, find_ok, pure_bind, hmethods, separated_ofBlocks,
    Block.spaced_eq_apart]
  simp [c]

/-! ## All fragments -/

/-- The three fragments of a file, in the contexts into which they were rendered. -/
structure Fragments where
  implementation : Context
  maker : Context
  configuration : Context

namespace Fragments

def contexts (fragments : Fragments) : List Context :=
  [fragments.implementation, fragments.maker, fragments.configuration]

/-- The texts of the fragments with an empty line between each two of them. -/
def text (fragments : Fragments) : String :=
  fragments.implementation.writer.output ++ "\n" ++ fragments.maker.writer.output ++ "\n" ++
    fragments.configuration.writer.output

/-- Claim the slots and render the fragments, each into a context of its own. -/
def render (b : Blueprint) : Except Panic Fragments := do
  let slots ← (SlotLists.build b).mapError Panic.missing
  let policy := (ImportSet.resolve b (defaultImports b)).policy
  let implementation ← fragment (renderImplementation policy b slots)
  let maker ← fragment (renderMaker policy b)
  let configuration ← fragment (renderConfiguration policy b slots)
  return ⟨implementation, maker, configuration⟩

/-- Rendering a blueprint never panics. Its fragments nest, and if the blueprint has a file, they are
    the text of this file below its imports. -/
theorem nests_render (b : Blueprint) :
    ∃ fragments, render b = .ok fragments ∧ (∀ ctx ∈ fragments.contexts, ctx.Nests) ∧
      ∀ options file, FakeFile.generate options b = .ok file →
        file.text = file.preamble ++ fragments.text := by
  let policy := (ImportSet.resolve b (defaultImports b)).policy
  obtain ⟨implementation, himplementation, hnestsImplementation, htextImplementation⟩ :=
    exists_fragment ((Implementation.ofBlueprint b (.ofBlueprint b)).blocks policy)
  obtain ⟨maker, hmaker, hnestsMaker, htextMaker⟩ :=
    exists_fragment ((Maker.ofBlueprint b).blocks policy)
  obtain ⟨configuration, hconfiguration, hnestsConfiguration, htextConfiguration⟩ :=
    exists_fragment ((Configuration.ofBlueprint b (.ofBlueprint b)).blocks policy)
  refine ⟨⟨implementation, maker, configuration⟩, ?_, ?_, ?_⟩
  · rw [render, SlotLists.build_eq]
    dsimp only [Except.mapError, bind, Except.bind]
    rw [renderImplementation_eq, renderMaker_eq, renderConfiguration_eq, himplementation]
    dsimp only
    rw [hmaker]
    dsimp only
    rw [hconfiguration]
    rfl
  · intro ctx hctx
    simp only [contexts, List.mem_cons, List.not_mem_nil, or_false] at hctx
    obtain rfl | rfl | rfl := hctx
    · exact hnestsImplementation
    · exact hnestsMaker
    · exact hnestsConfiguration
  · intro options file hfile
    obtain ⟨-, rfl⟩ := FakeFile.generate_eq_ok_iff.1 hfile
    rw [text, htextImplementation, htextMaker, htextConfiguration, FakeFile.text]
    simp [FakeFile.build, policy, String.append_assoc]

theorem nests_render_gauge : ∃ file fragments,
    FakeFile.generate ⟨true⟩ FakeFile.gauge = .ok file ∧ render FakeFile.gauge = .ok fragments ∧
      (∀ ctx ∈ fragments.contexts, ctx.Nests) ∧ file.text = file.preamble ++ fragments.text := by
  have hfile : FakeFile.generate ⟨true⟩ FakeFile.gauge = .ok _ := rfl
  obtain ⟨fragments, hrender, hnests, htext⟩ := nests_render FakeFile.gauge
  exact ⟨_, fragments, hfile, hrender, hnests, htext _ _ hfile⟩

end Fragments

end KotlinFakes.Fake
