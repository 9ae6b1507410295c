import KotlinFakes.Proofs.Callees.Capture
import KotlinFakes.Proofs.Slot.Allocation

/-!
# Methods that install behaviors

Both generated classes have a method for every slot: the configuration class offers one, and the
implementation class has the one that it calls. The two classes are laid out apart from each other;
their methods stand in the order of the slots, and the methods of one slot have the same type
parameters, behavior type and constraints in their headers.
-/

namespace KotlinFakes

namespace Layout.Block

mutual
/-- The blocks with braces in a fragment, each before those inside it: the header and the body. -/
def opened : Block → List (String × List Block)
  | .line _ | .blank => []
  | .block header body => (header, body) :: openedAll body
  | .nested body => openedAll body
def openedAll : List Block → List (String × List Block)
  | [] => []
  | b :: bs => b.opened ++ openedAll bs
end

@[simp] theorem openedAll_append (bs cs : List Block) :
    openedAll (bs ++ cs) = openedAll bs ++ openedAll cs := by
  induction bs with
  | nil => rw [openedAll, List.nil_append, List.nil_append]
  | cons b bs ih => rw [List.cons_append, openedAll, ih, openedAll, List.append_assoc]

theorem openedAll_spaced (groups : List (List Block)) :
    openedAll (spaced groups) = groups.flatMap openedAll := by
  induction groups with
  | nil => rfl
  | cons group rest ih =>
      cases rest with
      | nil => simp [spaced]
      | cons next rest =>
          simp only [spaced, openedAll_append, openedAll, opened, ih, List.flatMap_cons,
            List.nil_append]

end Layout.Block

open Layout

namespace Text

theorem head?_append_ne {text : String} {c : Char}
    (h : text ≠ "" ∧ text.toList.head? ≠ some c) (rest : String) :
    (text ++ rest).toList.head? ≠ some c := by
  have hne : text.toList ≠ [] := mt (fun heq => String.toList_inj.1 heq) h.1
  obtain ⟨first, others, htext⟩ := List.exists_cons_of_ne_nil hne
  rw [htext, List.head?_cons] at h
  rw [String.toList_append, htext, List.cons_append, List.head?_cons]
  exact h.2

end Text

namespace Blueprint

/-- What can be installed in a fake: a getter and perhaps a setter for every property, then the
    functions. A behavior has type parameters and a type. -/
def installed (b : Blueprint) : List (List TypeParam × Ty) :=
  b.properties.flatMap (fun p =>
      ([], p.getterType) :: if p.isMutable then [([], p.setterType)] else []) ++
    b.functions.map fun f => (f.typeParams, f.signatureType)

end Blueprint

namespace Fake

/-! ## The two classes -/

/-- What the header of a method says about the behavior that it takes. -/
structure Head where
  /-- The type parameters, with a blank after them if there are any. -/
  typeParams : String
  behavior : String
  /-- The `where` clause, with a blank before it if there is one. -/
  constraints : String
  deriving Repr, DecidableEq

namespace Head

def ofType (policy : NamePolicy) (params : List TypeParam) (type : Ty) : Head :=
  ⟨writeMethodParams policy params, policy.write type, policy.writeWhere params⟩

/-- The header of a method of the given name. -/
def write (keywords name : String) (head : Head) : String :=
  keywords ++ head.typeParams ++ name ++ "(behavior: " ++ head.behavior ++ ")" ++ head.constraints

end Head

/-- The keywords of a method that installs a behavior in the implementation class. -/
def configureKeywords : String := "internal fun "

/-- Whether a header is that of a method that installs a behavior in the implementation class. -/
def isConfigureHeader (header : String) : Bool :=
  configureKeywords.toList.isPrefixOf header.toList

/-- The method of the configuration class that belongs to a method of the implementation class. -/
def Configure.offered (c : Configure) : ConfigurationMethod := ⟨c.slot, c.typeParams, c.type⟩

def ConfigurationMethod.head (policy : NamePolicy) (m : ConfigurationMethod) : Head :=
  .ofType policy m.typeParams m.type

theorem ConfigurationMethod.header_eq (policy : NamePolicy) (m : ConfigurationMethod) :
    m.header policy = (m.head policy).write "fun " m.slot.dsl := rfl

theorem Configure.header_eq (policy : NamePolicy) (c : Configure) :
    c.header policy = (c.offered.head policy).write configureKeywords c.offered.slot.configure := rfl

/-- The call in the body of a method of the configuration class. -/
def installingBody (slot : Slot) : List Block := [.line ("fake." ++ slot.configure ++ "(behavior)")]

theorem isConfigureHeader_configure (policy : NamePolicy) (c : Configure) :
    isConfigureHeader (c.header policy) := by
  rw [isConfigureHeader, List.isPrefixOf_iff_prefix, Configure.header_eq, Head.write]
  simp only [String.toList_append, List.append_assoc]
  exact List.prefix_append _ _

theorem isConfigureHeader_eq_false {header : String} (h : header.toList.head? ≠ some 'i') :
    isConfigureHeader header = false := by
  rw [Bool.eq_false_iff, Ne, isConfigureHeader, List.isPrefixOf_iff_prefix]
  rintro ⟨rest, hrest⟩
  rw [← hrest] at h
  exact h (by simp [configureKeywords])

/-- The headers of the methods that install behaviors, among the blocks of a fragment. -/
def configureHeaders (blocks : List Block) : List String :=
  ((Block.openedAll blocks).map Prod.fst).filter isConfigureHeader

theorem configureHeaders_append (bs cs : List Block) :
    configureHeaders (bs ++ cs) = configureHeaders bs ++ configureHeaders cs := by
  simp [configureHeaders]

theorem configureHeaders_spaced (groups : List (List Block)) :
    configureHeaders (Block.spaced groups) = groups.flatMap configureHeaders := by
  rw [configureHeaders, Block.openedAll_spaced, List.map_flatMap, List.filter_flatMap]
  rfl

theorem configureHeaders_block {header : String} (h : header.toList.head? ≠ some 'i')
    (body : List Block) : configureHeaders [.block header body] = configureHeaders body := by
  simp [configureHeaders, Block.openedAll, Block.opened, isConfigureHeader_eq_false h]

theorem configureHeaders_configure (policy : NamePolicy) (c : Configure) :
    configureHeaders (c.blocks policy) = [c.header policy] := by
  have h := isConfigureHeader_configure policy c
  unfold Configure.blocks
  split <;> simp [configureHeaders, Block.openedAll, Block.opened, uncheckedCast, h]

theorem configureHeaders_property (policy : NamePolicy) (m : PropertyMember) :
    configureHeaders (m.blocks policy) = m.configures.map (Configure.header policy) := by
  have hfields : configureHeaders (m.behaviors.flatMap (fun behavior => counterBlocks behavior.slot) ++
      m.behaviors.map (Behavior.block policy)) = [] := by
    cases hsetter : m.setter <;>
      simp [PropertyMember.behaviors, hsetter, counterBlocks, Behavior.block, configureHeaders,
        Block.openedAll, Block.opened]
  have hoverride : configureHeaders (m.overrideBlocks policy) = [] := by
    have hget : isConfigureHeader "get()" = false := by decide
    have hset : isConfigureHeader "set(value)" = false := by decide
    cases hsetter : m.setter <;>
      simp [PropertyMember.overrideBlocks, hsetter, countBlock, configureHeaders, Block.openedAll,
        Block.opened, hget, hset]
  rw [PropertyMember.blocks, configureHeaders_spaced, List.flatMap_cons, List.flatMap_cons, hfields,
    hoverride, List.nil_append, List.nil_append, List.flatMap_map, List.map_eq_flatMap]
  exact List.flatMap_congr fun c _ => configureHeaders_configure policy c

theorem configureHeaders_function (policy : NamePolicy) (m : FunctionMember) :
    configureHeaders (m.blocks policy) = [m.configure.header policy] := by
  have hfields : configureHeaders (counterBlocks m.behavior.slot ++ [m.behavior.block policy]) = [] :=
    rfl
  have hheader : (m.header policy).toList.head? ≠ some 'i' := by
    unfold FunctionMember.header
    simp only [String.append_assoc]
    exact Text.head?_append_ne (by decide) _
  have hoverride : configureHeaders (m.overrideBlocks policy) = [] := by
    rw [FunctionMember.overrideBlocks, configureHeaders_append, configureHeaders_block hheader]
    split <;> rfl
  rw [FunctionMember.blocks, configureHeaders_spaced]
  simp [hfields, hoverride, configureHeaders_configure]

theorem configureHeaders_implementation (policy : NamePolicy) (c : Implementation) :
    configureHeaders (c.blocks policy) = c.configures.map (Configure.header policy) := by
  have hheader : (c.header policy).toList.head? ≠ some 'i' := by
    unfold Implementation.header
    simp only [String.append_assoc]
    exact Text.head?_append_ne (by decide) _
  rw [Implementation.blocks, configureHeaders_block hheader, configureHeaders_spaced,
    List.flatMap_append, List.flatMap_map, List.flatMap_map, Implementation.configures,
    List.map_append, List.map_flatMap, List.map_map]
  simp only [configureHeaders_property, configureHeaders_function]
  rw [List.map_eq_flatMap (l := c.functions)]
  rfl

theorem openedAll_configuration (policy : NamePolicy) (c : Configuration) :
    ∃ body, c.blocks policy = [.block (c.header policy) body] ∧
      Block.openedAll body =
        c.methods.map fun m => (m.header policy, installingBody m.slot) := by
  refine ⟨_, rfl, ?_⟩
  rw [Block.openedAll_spaced, List.flatMap_map, List.map_eq_flatMap]
  rfl

/-! ## The order of the methods -/

theorem map_offered_configures (b : Blueprint) (slots : SlotTable) :
    (Implementation.ofBlueprint b slots).configures.map Configure.offered =
      (Configuration.ofBlueprint b slots).methods := by
  simp only [Implementation.configures, Implementation.ofBlueprint, Configuration.ofBlueprint,
    List.map_append, List.map_flatMap, List.map_map, List.flatMap_map]
  congr 1
  refine List.flatMap_congr fun s _ => ?_
  cases hsetter : s.setter <;>
    simp [PropertyMember.ofSlots, PropertyMember.configures, PropertyMember.behaviors,
      Configuration.propertyMethods, Configure.offered, hsetter]

theorem map_slot_methods (b : Blueprint) (slots : SlotTable) :
    (Configuration.ofBlueprint b slots).methods.map ConfigurationMethod.slot = slots.slots := by
  simp only [Configuration.ofBlueprint, SlotTable.slots, List.map_append, List.map_flatMap,
    List.map_map]
  congr 1
  refine List.flatMap_congr fun s _ => ?_
  cases hsetter : s.setter <;>
    simp [Configuration.propertyMethods, PropertySlots.slots, hsetter]

theorem map_type_methods (b : Blueprint) :
    (Configuration.ofBlueprint b (.ofBlueprint b)).methods.map (fun m => (m.typeParams, m.type)) =
      b.installed := by
  have hproperties := SlotTable.map_property_ofBlueprint b
  have hfunctions := SlotTable.map_function_ofBlueprint b
  rw [Blueprint.installed, ← hproperties, ← hfunctions]
  simp only [Configuration.ofBlueprint, List.map_append, List.map_flatMap, List.map_map,
    List.flatMap_map]
  congr 1
  refine List.flatMap_congr fun s hs => ?_
  have hmutable := SlotTable.setter_ofBlueprint hs
  cases hsetter : s.setter <;> simp_all [Configuration.propertyMethods]

/-- There is one method for each slot and for each behavior that can be installed. -/
theorem methods_eq_zipWith (b : Blueprint) :
    (SlotTable.ofBlueprint b).slots.length = b.installed.length ∧
      (Configuration.ofBlueprint b (.ofBlueprint b)).methods =
        List.zipWith (fun slot (params, type) => ⟨slot, params, type⟩)
          (SlotTable.ofBlueprint b).slots b.installed := by
  rw [← map_slot_methods b, ← map_type_methods b, List.length_map, List.length_map,
    List.zipWith_map, List.zipWith_self, List.map_id']
  exact ⟨rfl, rfl⟩

end Fake

namespace FakeFile

open Fake

/-- For every slot there is one method in each generated class, in the order of the slots, and nothing
    else: the headers of the two agree in all but keywords and name, and the method of the
    configuration class calls the other one. -/
theorem methods_agree {options : FileOptions} {b : Blueprint} {file : FakeFile}
    (h : generate options b = .ok file) :
    let slots := (SlotTable.ofBlueprint b).slots
    let heads := b.installed.map fun (params, type) => Head.ofType file.policy params type
    slots.length = heads.length ∧
      (∃ body, file.configuration.blocks file.policy =
          [.block (file.configuration.header file.policy) body] ∧
        Block.openedAll body = List.zipWith
          (fun slot head => (head.write "fun " slot.dsl, installingBody slot)) slots heads) ∧
      configureHeaders (file.implementation.blocks file.policy) = List.zipWith
        (fun slot head => head.write configureKeywords slot.configure) slots heads := by
  intro slots heads
  obtain ⟨hlength, hmethods⟩ := methods_eq_zipWith b
  have hconfiguration : file.configuration = .ofBlueprint b (.ofBlueprint b) := by
    rw [eq_build_of_generate h]
    rfl
  have himplementation : file.implementation = .ofBlueprint b (.ofBlueprint b) := by
    rw [eq_build_of_generate h]
    rfl
  refine ⟨by rw [List.length_map, hlength], ?_, ?_⟩
  · obtain ⟨body, hblocks, hopened⟩ := openedAll_configuration file.policy file.configuration
    refine ⟨body, hblocks, ?_⟩
    simp only [ConfigurationMethod.header_eq] at hopened
    rw [hopened, hconfiguration, hmethods, List.map_zipWith, List.zipWith_map_right]
    rfl
  · have hmap (cs : List Configure) : cs.map (Configure.header file.policy) =
        (cs.map Configure.offered).map fun m =>
          (m.head file.policy).write configureKeywords m.slot.configure := by
      simp [Configure.header_eq]
    rw [configureHeaders_implementation, himplementation, hmap, map_offered_configures, hmethods,
      List.map_zipWith, List.zipWith_map_right]
    rfl

/-- An interface with a variable, and a function whose type parameter has two bounds. -/
def gauge : Blueprint :=
  ⟨"app.Gauge", .interface, "app", "Gauge", [],
    [⟨"fit", [⟨"part", .param "T", false, false⟩], .unit, false, false,
      [⟨"T", [.named ⟨"app", "Part"⟩, .named ⟨"app", "Sized"⟩], false⟩], .abstract⟩],
    [⟨"level", .primitive .int, true, false, .abstract⟩], .onMethods⟩

theorem methods_agree_gauge : ∃ file, generate ⟨true⟩ gauge = .ok file ∧
    (∃ body, file.configuration.blocks file.policy =
        [.block (file.configuration.header file.policy) body] ∧
      (Block.openedAll body).map Prod.fst =
        ["fun level(behavior: () -> Int)", "fun setLevel(behavior: (Int) -> Unit)",
          "fun <T> fit(behavior: (T) -> Unit) where T : Part, T : Sized"]) ∧
    configureHeaders (file.implementation.blocks file.policy) =
      ["internal fun configureLevel(behavior: () -> Int)",
        "internal fun configureSetLevel(behavior: (Int) -> Unit)",
        "internal fun <T> configureFit(behavior: (T) -> Unit) where T : Part, T : Sized"] := by
  have hfile : generate ⟨true⟩ gauge = .ok _ := rfl
  obtain ⟨-, ⟨body, hblocks, hopened⟩, hheaders⟩ := methods_agree hfile
  refine ⟨_, hfile, ⟨body, hblocks, ?_⟩, hheaders.trans ?_⟩
  · rw [hopened]
    decide +kernel
  · decide +kernel

end FakeFile

end KotlinFakes
