import KotlinFakes.Proofs.Callees.Capture
import KotlinFakes.Proofs.Slot.Requests

/-!
# Parameters that shadow fields

An override counts its call in one field of the class and calls the behavior in another one. It names
both by their simple names, which stand for a parameter where there is one of that name. Slots keep clear
of the members of a subject, but not of the parameters of its functions, so a parameter shadows a field
of its function just where its name is made from the base of the slot that the function gets.
-/

namespace KotlinFakes

open Fake

namespace Slot

theorem IsFirstClear.unique {b : Blueprint} {before : List Slot} {base : String} {slot other : Slot}
    (h : IsFirstClear b before base slot) (ho : IsFirstClear b before base other) : slot = other := by
  cases h with
  | bare hclear =>
      cases ho with
      | bare => rfl
      | numbered hbare => exact absurd hclear hbare
  | @numbered n hbare htwo _ hclear hleast =>
      cases ho with
      | bare hclear' => exact absurd hclear' hbare
      | @numbered m _ htwo' _ hclear' hleast' =>
          obtain hlt | rfl | hlt := Nat.lt_trichotomy n m
          · exact absurd hclear (hleast' n htwo hlt)
          · rfl
          · exact absurd hclear' (hleast m htwo' hlt)

end Slot

namespace SlotTable

theorem isFirstClear_function {b : Blueprint} {before after : List FunctionSlot} {entry : FunctionSlot}
    (h : (ofBlueprint b).functions = before ++ entry :: after) :
    entry.slot.IsFirstClear b (SlotTable.mk (ofBlueprint b).properties before).slots
      (Slot.askedBase b.functions entry.function) := by
  let earlier : SlotTable := ⟨(ofBlueprint b).properties, before⟩
  have hrequests : (ofBlueprint b).requests b.functions = earlier.requests b.functions ++
      entry.request b.functions :: after.map (FunctionSlot.request b.functions) := by
    simp [requests, h, earlier]
  have hslot := slot_eq_slotFor hrequests
  rw [map_snd_requests] at hslot
  rw [hslot]
  exact Claims.isFirstClear_slotFor b earlier.slots _

end SlotTable

namespace Fake

/-- What a simple name stands for in the body of an override. -/
inductive Referent where
  | parameter (p : Blueprint.Parameter)
  /-- A member of the class. -/
  | member
  deriving Repr, DecidableEq

namespace FunctionMember

/-- What a name stands for in the body of the override. Parameters go before members; only the call of a
    parameter that is no function looks further. -/
def referent (m : FunctionMember) (name : String) : Referent :=
  match m.function.parameters.find? fun p => p.name = name with
  | some p => .parameter p
  | none => .member

theorem referent_eq_member_iff {m : FunctionMember} {name : String} :
    m.referent name = .member ↔ ∀ p ∈ m.function.parameters, p.name ≠ name := by
  unfold referent
  split
  · next p h =>
      refine iff_of_false nofun fun hnone => ?_
      exact hnone p (List.mem_of_find?_eq_some h) (by simpa using List.find?_some h)
  · next h => simpa using h

/-- The body of an override counts the call and calls the behavior. -/
theorem exists_body (policy : NamePolicy) (m : FunctionMember) :
    ∃ above, ∃ lead ∈ ["", "return "], ∃ rest, m.overrideBlocks policy =
      above ++ [.block (m.header policy)
        [.line (m.behavior.slot.counterState ++ ".update \x7b it + 1 \x7d"),
          .line (lead ++ m.behavior.slot.behavior ++ "(" ++ rest)]] := by
  have hcall : ∃ rest, m.call policy = m.behavior.slot.behavior ++ "(" ++ rest :=
    ⟨_, String.append_assoc ..⟩
  have hline : ∃ lead ∈ ["", "return "], ∃ rest,
      m.lastLine policy = lead ++ m.behavior.slot.behavior ++ "(" ++ rest := by
    obtain ⟨rest, hcall⟩ := hcall
    unfold lastLine
    rw [hcall]
    split
    · exact ⟨"", by simp, rest, by rw [String.empty_append]⟩
    · split
      · exact ⟨"return ", by simp, rest, by simp only [String.append_assoc]⟩
      · next type _ =>
          exact ⟨"return ", by simp, rest ++ (" as " ++ policy.write type),
            by simp only [String.append_assoc]⟩
  obtain ⟨lead, hlead, rest, hline⟩ := hline
  rw [overrideBlocks, hline]
  exact ⟨_, lead, hlead, rest, rfl⟩

end FunctionMember

/-- The slots of the behaviors in an implementation class up to a function. -/
def Implementation.slotsBefore (c : Implementation) (before : List FunctionMember) : List Slot :=
  (c.properties.flatMap PropertyMember.behaviors ++ before.map FunctionMember.behavior).map Behavior.slot

end Fake

namespace FakeFile

variable {options : FileOptions} {b : Blueprint} {file : FakeFile}

theorem isFirstClear_behavior (h : generate options b = .ok file) {before after : List FunctionMember}
    {m : FunctionMember} (hm : file.implementation.functions = before ++ m :: after) :
    m.behavior.slot.IsFirstClear b (file.implementation.slotsBefore before)
      (Slot.askedBase b.functions m.function) := by
  rw [implementation_of_generate h] at hm ⊢
  obtain ⟨earlier, rest, hsplit, rfl, hrest⟩ := List.map_eq_append_iff.1 hm
  obtain ⟨entry, later, rfl, rfl, -⟩ := List.map_eq_cons_iff.1 hrest
  have hproperty (s : PropertySlots) :
      (PropertyMember.ofSlots b s).behaviors.map Behavior.slot = s.slots := by
    cases hsetter : s.setter <;>
      simp [PropertyMember.ofSlots, PropertyMember.behaviors, PropertySlots.slots, hsetter]
  have hslots : (Implementation.ofBlueprint b (.ofBlueprint b)).slotsBefore
      (earlier.map (FunctionMember.ofSlot b)) =
        (SlotTable.mk (SlotTable.ofBlueprint b).properties earlier).slots := by
    simp [Implementation.slotsBefore, Implementation.ofBlueprint, SlotTable.slots, List.map_flatMap,
      List.flatMap_map, hproperty, FunctionMember.ofSlot]
  rw [hslots]
  exact SlotTable.isFirstClear_function hsplit

/-- Every function has an override that counts the call and calls the behavior. The names of the two
    fields stand for members in its body if and only if no parameter has the name of one of the fields
    of the slot that is the first clear one for the function. -/
theorem fields_in_scope_iff (h : generate options b = .ok file) :
    file.implementation.functions.map FunctionMember.function = b.functions ∧
    ∀ before m after, file.implementation.functions = before ++ m :: after →
      (∃ above, ∃ lead ∈ ["", "return "], ∃ rest, m.overrideBlocks file.policy =
        above ++ [.block (m.header file.policy)
          [.line (m.behavior.slot.counterState ++ ".update \x7b it + 1 \x7d"),
            .line (lead ++ m.behavior.slot.behavior ++ "(" ++ rest)]]) ∧
      ((m.referent m.behavior.slot.counterState = .member ∧
          m.referent m.behavior.slot.behavior = .member) ↔
        ∀ p ∈ m.function.parameters, ∀ slot : Slot,
          p.name = slot.counterState ∨ p.name = slot.behavior →
          ¬ slot.IsFirstClear b (file.implementation.slotsBefore before)
            (Slot.askedBase b.functions m.function)) := by
  have hfunctions : file.implementation.functions.map FunctionMember.function = b.functions := by
    rw [implementation_of_generate h, ← SlotTable.map_function_ofBlueprint b]
    simp [Implementation.ofBlueprint, FunctionMember.ofSlot]
  refine ⟨hfunctions, fun before m after hm => ⟨m.exists_body file.policy, ?_⟩⟩
  have hfirst := isFirstClear_behavior h hm
  rw [FunctionMember.referent_eq_member_iff, FunctionMember.referent_eq_member_iff]
  constructor
  · rintro ⟨hstate, hbehavior⟩ p hp slot hname hslot
    obtain rfl := hslot.unique hfirst
    exact hname.elim (hstate p hp) (hbehavior p hp)
  · intro hnone
    exact ⟨fun p hp hname => hnone p hp _ (.inl hname) hfirst,
      fun p hp hname => hnone p hp _ (.inr hname) hfirst⟩

/-- The parameter `runBehavior: (Any?) -> Unit`. -/
def callback : Blueprint.Parameter :=
  ⟨"runBehavior", .function [.nullable (.primitive .any)] false .unit, false, false⟩

/-- The blueprint of an interface with some properties and the function that takes the callback. -/
def runner (properties : List Blueprint.Property) : Blueprint :=
  ⟨"app.Runner", .interface, "app", "Runner", [],
    [⟨"run", [callback], .unit, false, false, [], .abstract⟩], properties, .absent⟩

def namesake : Blueprint.Property := ⟨"runBehavior", .primitive .int, false, false, .abstract⟩

/-- A property with the name of the parameter makes the slot of the function another one, so the parameter
    shadows nothing. -/
theorem fields_in_scope_iff_runner : ∃ file, generate ⟨true⟩ (runner [namesake]) = .ok file ∧
    (∃ m, file.implementation.functions = [m] ∧ m.behavior.slot = ⟨"run2"⟩ ∧
      m.referent "_run2CallCount" = .member ∧ m.referent "run2Behavior" = .member) ∧
    ¬ Slot.IsFirstClear (runner [namesake]) [⟨"runBehavior"⟩] "run" ⟨"run"⟩ := by
  have hfile : generate ⟨true⟩ (runner [namesake]) = .ok _ := rfl
  obtain ⟨-, hall⟩ := fields_in_scope_iff hfile
  obtain ⟨-, hiff⟩ := hall [] _ [] rfl
  have hnone := hiff.1 ⟨by decide, by decide⟩
  exact ⟨_, hfile, ⟨_, rfl, by decide, by decide, by decide⟩,
    hnone callback (by decide) ⟨"run"⟩ (by decide)⟩

/-- The override of `run` calls its own parameter and not the behavior. -/
theorem exists_shadowed_field : ∃ (options : FileOptions) (b : Blueprint) (file : FakeFile),
    generate options b = .ok file ∧ ∃ m ∈ file.implementation.functions,
      m.lastLine file.policy = m.behavior.slot.behavior ++ "(runBehavior)" ∧
      m.referent m.behavior.slot.behavior = .parameter callback :=
  ⟨⟨true⟩, runner [], _, rfl, _, List.mem_cons_self, by decide, by decide⟩

end FakeFile

end KotlinFakes
