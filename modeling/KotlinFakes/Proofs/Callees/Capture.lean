import KotlinFakes.Fake.File
import KotlinFakes.Proofs.Callees.OfTy
import KotlinFakes.Proofs.Slot.Allocation
import Mathlib.Logic.Basic

/-!
# Captured callees

Inside the implementation class a function of the subject goes before a function of the standard library
with the same name. Initial behaviors call their callees by simple names, so a callee is captured where
the subject has a function of that name that can be called with the same arguments.
-/

namespace KotlinFakes

/-! ## The callees that a file calls -/

namespace Fake

/-- The callees that a behavior calls before it is configured. -/
def Initial.callees : Initial → List Callee
  | .failing _ => [.error]
  | .value default => default.callees
  | .readSuper _ | .writeSuper _ | .remember _ | .callSuper _ => []

theorem Initial.exists_call_of_mem_callees (policy : NamePolicy) (message : String) {callee : Callee}
    {initial : Initial} (h : callee ∈ initial.callees) :
    ∃ text, Callee.IsCall policy message callee text ∧
      text.toList <:+: (initial.write policy message).toList := by
  cases initial with
  | failing arity =>
      obtain rfl : callee = .error := by simpa [callees] using h
      exact ⟨_, .error, Default.infix_closureText _ _⟩
  | value default => exact default.exists_call_of_mem_callees policy message h
  | readSuper | writeSuper | remember | callSuper => cases h

def Implementation.callees (c : Implementation) : List Callee :=
  c.behaviors.flatMap fun behavior => behavior.initial.callees

/-- The callees that a member calls, by where its behavior comes from and by its type. -/
inductive Source.Calls (erased : List String) (t : Ty) : Source → Callee → Prop where
  | unconfigured : Calls erased t .unconfigured .error
  | failing (h : t.Fails erased) : Calls erased t .synthesized .error
  | building {factory : Factory} (h : t.Builds erased factory) :
      Calls erased t .synthesized (.container factory)

theorem Source.calls_synthesized_iff {erased : List String} {t : Ty} {callee : Callee} :
    Source.Calls erased t .synthesized callee ↔ callee ∈ (Default.ofTy erased t).callees := by
  cases callee with
  | error =>
      rw [Default.error_mem_callees_ofTy]
      exact ⟨fun h => by cases h; assumption, .failing⟩
  | container factory =>
      rw [Default.container_mem_callees_ofTy]
      exact ⟨fun h => by cases h; assumption, .building⟩

theorem Source.calls_unconfigured_iff {erased : List String} {t : Ty} {callee : Callee} :
    Source.Calls erased t .unconfigured callee ↔ callee = .error :=
  ⟨fun h => by cases h; rfl, fun h => h ▸ .unconfigured⟩

theorem Source.not_calls_inherited {erased : List String} {t : Ty} {callee : Callee} :
    ¬ Source.Calls erased t .inherited callee := nofun

variable {b : Blueprint} {callee : Callee}

theorem mem_callees_functionInitial {f : Blueprint.Function} :
    callee ∈ (functionInitial b f).callees ↔
      (functionSource b f).Calls (b.erasedNames f) f.signatureType callee := by
  unfold functionInitial
  split
  · next h => simp [h, Initial.callees, Source.not_calls_inherited]
  · next h => simp [h, Initial.callees, Source.calls_unconfigured_iff]
  · next h => rw [h, Source.calls_synthesized_iff, Initial.callees]

theorem mem_callees_getterInitial {p : Blueprint.Property} :
    callee ∈ (getterInitial b p).callees ↔ (propertySource b p).Calls [] p.getterType callee := by
  unfold getterInitial
  split
  · next h => simp [h, Initial.callees, Source.not_calls_inherited]
  · next h => simp [h, Initial.callees, Source.calls_unconfigured_iff]
  · next h => rw [h, Source.calls_synthesized_iff, Initial.callees]

theorem callees_setterInitial (getter : Slot) (p : Blueprint.Property) :
    (setterInitial getter p).callees = [] := by
  unfold setterInitial
  split <;> rfl

end Fake

namespace Blueprint

open Fake

/-- The callees that the members of a blueprint call before they are configured. -/
def Calls (b : Blueprint) (callee : Callee) : Prop :=
  (∃ p ∈ b.properties, (propertySource b p).Calls [] p.getterType callee) ∨
    ∃ f ∈ b.functions, (functionSource b f).Calls (b.erasedNames f) f.signatureType callee

theorem mem_callees_ofBlueprint {b : Blueprint} {callee : Callee} :
    callee ∈ (Implementation.ofBlueprint b (.ofBlueprint b)).callees ↔ b.Calls callee := by
  have hproperties := SlotTable.map_property_ofBlueprint b
  have hfunctions := SlotTable.map_function_ofBlueprint b
  have hproperty (s : PropertySlots) :
      (PropertyMember.ofSlots b s).behaviors.flatMap (fun behavior => behavior.initial.callees) =
        (getterInitial b s.property).callees := by
    cases hsetter : s.setter <;>
      simp [PropertyMember.ofSlots, PropertyMember.behaviors, hsetter, callees_setterInitial]
  have hfunction (s : FunctionSlot) : callee ∈ (FunctionMember.ofSlot b s).behavior.initial.callees ↔
      (functionSource b s.function).Calls (b.erasedNames s.function) s.function.signatureType callee :=
    mem_callees_functionInitial
  rw [Calls, ← hproperties, ← hfunctions]
  simp only [Implementation.callees, Implementation.behaviors, Implementation.ofBlueprint,
    List.flatMap_append, List.flatMap_assoc, List.flatMap_map, List.mem_append, List.mem_flatMap,
    List.mem_map, exists_exists_and_eq_and, hproperty, mem_callees_getterInitial, hfunction]

end Blueprint

/-! ## The functions that capture them -/

/-- What a language decides about calls: which types of a function's parameters take a text. -/
structure TextRule where
  takes : Blueprint.Function → Ty → Prop
  takes_string : ∀ f, takes f (.primitive .string)

namespace Blueprint

/-- Whether a call may leave out the parameter. -/
def Parameter.isOptional (p : Parameter) : Bool := p.isVararg || p.hasDefault

/-- Whether a function can be called with the arguments that a callee is called with: a message, or
    none. -/
def Function.Takes (rule : TextRule) (f : Function) : Callee → Prop
  | .error => ∃ first rest, f.parameters = first :: rest ∧ rule.takes f first.type ∧
      ∀ p ∈ rest, p.isOptional
  | .container _ => ∀ p ∈ f.parameters, p.isOptional

/-- Whether a function of a blueprint goes before a callee. -/
def Captures (rule : TextRule) (b : Blueprint) (callee : Callee) : Prop :=
  ∃ f ∈ b.functions, f.name = callee.name ∧ f.Takes rule callee

end Blueprint

namespace FakeFile

open Fake

variable {options : FileOptions} {b : Blueprint} {file : FakeFile}

theorem eq_build_of_generate (h : generate options b = .ok file) : file = build options b :=
  (generate_eq_ok_iff.1 h).2.symm

theorem implementation_of_generate (h : generate options b = .ok file) :
    file.implementation = .ofBlueprint b (.ofBlueprint b) := by
  rw [eq_build_of_generate h, build]

theorem imports_of_generate (h : generate options b = .ok file) :
    file.imports = (ImportSet.resolve b (Fake.defaultImports b)).imports := by
  rw [eq_build_of_generate h, build]

/-- No callee of a file is captured if and only if each function that goes before a callee belongs to a
    blueprint of which no member calls that callee, by its source and its type. The callees of a
    behavior are called in its text. -/
theorem not_captures_iff (rule : TextRule) (h : generate options b = .ok file) :
    (∀ behavior ∈ file.implementation.behaviors, ∀ callee ∈ behavior.initial.callees,
      ∃ text, Callee.IsCall file.policy behavior.message callee text ∧
        text.toList <:+: (behavior.initial.write file.policy behavior.message).toList) ∧
    ((∀ callee ∈ file.implementation.callees, ¬ b.Captures rule callee) ↔
      ∀ f ∈ b.functions, ∀ callee : Callee, f.name = callee.name → f.Takes rule callee →
        ¬ b.Calls callee) := by
  refine ⟨fun behavior _ callee hcallee =>
    Initial.exists_call_of_mem_callees file.policy behavior.message hcallee, ?_⟩
  have hcalls {callee : Callee} : callee ∈ file.implementation.callees ↔ b.Calls callee := by
    rw [eq_build_of_generate h]
    exact Blueprint.mem_callees_ofBlueprint
  constructor
  · intro hfree f hf callee hname htakes hcall
    exact hfree callee (hcalls.2 hcall) ⟨f, hf, hname, htakes⟩
  · rintro hfree callee hcallee ⟨f, hf, hname, htakes⟩
    exact hfree f hf callee hname htakes (hcalls.1 hcallee)

/-- The blueprint of an interface with a function that takes a message and a property. -/
def logger (property : String) (type : Ty) : Blueprint :=
  ⟨"app.Logger", .interface, "app", "Logger", [],
    [⟨"error", [⟨"message", .primitive .string, false, false⟩], .primitive .unit, false, false, [],
      .abstract⟩],
    [⟨property, type, false, false, .abstract⟩], .absent⟩

def taggedLogger : Blueprint :=
  logger "tags" (.apply ⟨"kotlin.collections", "List"⟩ [.primitive .string])

/-- A function that takes a message captures nothing where every member has a safe value. -/
theorem not_captures_iff_tags : ∃ file, generate ⟨true⟩ taggedLogger = .ok file ∧
    .container .emptyList ∈ file.implementation.callees ∧
      ∀ rule, ∀ callee ∈ file.implementation.callees, ¬ taggedLogger.Captures rule callee := by
  have hfile : generate ⟨true⟩ taggedLogger = .ok _ := rfl
  refine ⟨_, hfile, by decide, fun rule => (not_captures_iff rule hfile).2.2 ?_⟩
  intro f hf callee hname _
  obtain rfl := List.mem_singleton.1 hf
  cases callee with
  | error => exact mt Blueprint.mem_callees_ofBlueprint.2 (by decide)
  | container factory => cases factory <;> exact absurd hname (by decide)

/-- A function that takes a message captures the failure of another member. -/
theorem exists_captures : ∃ (options : FileOptions) (b : Blueprint) (file : FakeFile),
    generate options b = .ok file ∧
      ∀ rule, ∃ callee ∈ file.implementation.callees, b.Captures rule callee :=
  ⟨⟨true⟩, logger "parent" (.named ⟨"app", "Logger"⟩), _, rfl, fun rule =>
    ⟨.error, by decide, _, List.mem_singleton_self _, rfl, _, _, rfl, rule.takes_string _, nofun⟩⟩

end FakeFile

end KotlinFakes
