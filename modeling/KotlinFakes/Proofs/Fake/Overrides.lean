import KotlinFakes.Proofs.Fake.Storage
import KotlinFakes.Proofs.Slot.Allocation
import KotlinFakes.Proofs.Ty.Renaming
import Mathlib.Data.Set.Function

/-!
# Conflicting overrides

Two functions of one name cannot stand in one class if their parameter types are the same, and it does
not matter how each of them calls its own type parameters. A function has a key in which its own type
parameters stand under the places of their first occurrences, and two functions conflict if and only if
they have the same key. A blueprint with a file is checked for functions that are the same as they are
written, which leaves conflicts by renaming, and those between properties.
-/

namespace KotlinFakes

theorem idxOf_map_of_injective {r : String → String} {name : String} {names : List String}
    (h : ∀ other ∈ names, r other = r name → other = name) :
    (names.map r).idxOf (r name) = names.idxOf name := by
  induction names with
  | nil => rfl
  | cons first rest ih =>
      have hrest := ih fun other hother => h other (List.mem_cons_of_mem _ hother)
      rw [List.map_cons, List.idxOf_cons, List.idxOf_cons, hrest]
      have hfirst : (r first == r name) = (first == name) :=
        Bool.eq_iff_iff.2 (by simpa using ⟨h first List.mem_cons_self, congrArg r⟩)
      rw [hfirst]

namespace Blueprint.Function

/-- The type parameters that the parameter types of a function mention, in order. -/
def mentioned (f : Function) : List String := Ty.paramsAll f.valueTypes

/-- Whether a renaming of the own type parameters of a function makes its parameter types those of
    another one. It keeps different parameters apart, and the own parameters of each function apart from
    those declared outside. -/
structure Renames (f g : Function) (r : String → String) : Prop where
  own_iff : ∀ name ∈ f.mentioned, r name ∈ g.typeParamNames ↔ name ∈ f.typeParamNames
  outer_eq : ∀ name ∈ f.mentioned, name ∉ f.typeParamNames → r name = name
  injective : ∀ name ∈ f.mentioned, ∀ other ∈ f.mentioned, r name = r other → name = other
  types_eq : Ty.renameAll r f.valueTypes = g.valueTypes

/-- Whether two functions have the same name and, up to the names of their own type parameters, the same
    parameter types. -/
def ConflictsWith (f g : Function) : Prop := f.name = g.name ∧ ∃ r, f.Renames g r

/-- What a type parameter is called in the key of a function: an own one by the place where it occurs
    first. -/
def place (f : Function) (name : String) : String :=
  if name ∈ f.typeParamNames then toString (f.mentioned.idxOf name) ++ "#" else name ++ "'"

/-- The name of a function with its parameter types, whatever its own type parameters are called. -/
def key (f : Function) : String × List Ty := (f.name, Ty.renameAll f.place f.valueTypes)

variable {f g : Function}

theorem place_ne (f g : Function) {name other : String} (h : name ∈ f.typeParamNames)
    (hother : other ∉ g.typeParamNames) : f.place name ≠ g.place other := by
  rw [place, if_pos h, place, if_neg hother]
  intro heq
  have hown := Text.getLast?_append (toString (f.mentioned.idxOf name)) "#" (c := '#') (by decide)
  rw [heq, Text.getLast?_append other "'" (c := '\'') (by decide)] at hown
  cases hown

theorem own_iff_of_place_eq {name other : String} (h : f.place name = g.place other) :
    name ∈ f.typeParamNames ↔ other ∈ g.typeParamNames := by
  by_cases hname : name ∈ f.typeParamNames <;> by_cases hother : other ∈ g.typeParamNames
  · exact iff_of_true hname hother
  · exact absurd h (place_ne f g hname hother)
  · exact absurd h.symm (place_ne g f hother hname)
  · exact iff_of_false hname hother

theorem place_injective {name other : String} (hname : name ∈ f.mentioned)
    (h : f.place name = f.place other) : name = other := by
  have hown := own_iff_of_place_eq h
  unfold place at h
  by_cases hmem : name ∈ f.typeParamNames
  · rw [if_pos hmem, if_pos (hown.1 hmem), String.append_left_inj] at h
    exact (List.idxOf_inj hname).1 (Text.toString_nat_inj h)
  · rwa [if_neg hmem, if_neg (mt hown.2 hmem), String.append_left_inj] at h

theorem Renames.place_eq {r : String → String} (h : f.Renames g r) {name : String}
    (hname : name ∈ f.mentioned) : g.place (r name) = f.place name := by
  have hmentioned : g.mentioned = f.mentioned.map r := by
    rw [mentioned, ← h.types_eq, Ty.paramsAll_renameAll]
    rfl
  unfold place
  by_cases hown : name ∈ f.typeParamNames
  · rw [if_pos hown, if_pos ((h.own_iff name hname).2 hown), hmentioned,
      idxOf_map_of_injective fun other hother heq => h.injective other hother name hname heq]
  · rw [if_neg hown, if_neg (mt (h.own_iff name hname).1 hown), h.outer_eq name hname hown]

theorem mentioned_eq_of_key_eq (h : f.key = g.key) :
    f.mentioned.map f.place = g.mentioned.map g.place := by
  have htypes : Ty.paramsAll (Ty.renameAll f.place f.valueTypes) =
      Ty.paramsAll (Ty.renameAll g.place g.valueTypes) := congrArg (fun key => Ty.paramsAll key.2) h
  rwa [Ty.paramsAll_renameAll, Ty.paramsAll_renameAll] at htypes

/-- Functions with the same key are renamed into each other: each type parameter to the one at the same
    place. -/
theorem exists_renames_of_key_eq (h : f.key = g.key) : ∃ r, f.Renames g r := by
  -- Places tell the parameters that a function mentions apart, so they can be read back.
  have hinjective : Set.InjOn g.place {name | name ∈ g.mentioned} := fun name hname _ _ heq =>
    place_injective hname heq
  let back := Function.invFunOn g.place {name | name ∈ g.mentioned}
  have hback : ∀ name ∈ g.mentioned, back (g.place name) = name := fun name hname =>
    hinjective.leftInvOn_invFunOn hname
  have hplace : ∀ name ∈ f.mentioned, g.place (back (f.place name)) = f.place name := by
    intro name hname
    have hmem := List.mem_map_of_mem (f := f.place) hname
    rw [mentioned_eq_of_key_eq h] at hmem
    obtain ⟨other, hother, heq⟩ := List.mem_map.1 hmem
    rw [← heq, hback other hother]
  refine ⟨back ∘ f.place, ?_, ?_, ?_, ?_⟩
  · exact fun name hname => (own_iff_of_place_eq (hplace name hname))
  · intro name hname hown
    have heq := hplace name hname
    have hother := mt (own_iff_of_place_eq heq).1 hown
    generalize hback : back (f.place name) = other at heq hother
    rw [place, if_neg hother, place, if_neg hown, String.append_left_inj] at heq
    rw [Function.comp_apply, hback, heq]
  · intro name hname other hother heq
    refine place_injective hname ?_
    rw [← hplace name hname, ← hplace other hother]
    exact congrArg g.place heq
  · have htypes : Ty.renameAll f.place f.valueTypes = Ty.renameAll g.place g.valueTypes :=
      congrArg Prod.snd h
    rw [← Ty.renameAll_renameAll, htypes, Ty.renameAll_renameAll]
    exact Ty.renameAll_eq_self hback

/-- Functions conflict if and only if they have the same key. -/
theorem conflictsWith_iff : f.ConflictsWith g ↔ f.key = g.key := by
  constructor
  · rintro ⟨hname, r, h⟩
    refine Prod.ext hname ?_
    change Ty.renameAll f.place f.valueTypes = Ty.renameAll g.place g.valueTypes
    rw [← h.types_eq, Ty.renameAll_renameAll]
    exact Ty.renameAll_congr fun name hname => (h.place_eq hname).symm
  · exact fun h => ⟨congrArg Prod.fst h, exists_renames_of_key_eq h⟩

instance (f g : Function) : Decidable (f.ConflictsWith g) :=
  decidable_of_iff _ conflictsWith_iff.symm

theorem Renames.valueTypes_eq {r : String → String} (h : f.Renames g r)
    (hown : ∀ name ∈ f.mentioned, name ∈ f.typeParamNames → r name = name) :
    f.valueTypes = g.valueTypes := by
  rw [← h.types_eq, Ty.renameAll_eq_self]
  intro name hname
  by_cases hmem : name ∈ f.typeParamNames
  · exact hown name hname hmem
  · exact h.outer_eq name hname hmem

end Blueprint.Function

/-! ## Accepted blueprints -/

namespace Blueprint

theorem firstRepeated_eq_none_iff {seen : List (String × List Ty)} {fs : List Function} :
    firstRepeated seen fs = none ↔
      (fs.map Function.overload).Nodup ∧ ∀ f ∈ fs, f.overload ∉ seen := by
  induction fs generalizing seen with
  | nil => simp [firstRepeated]
  | cons f fs ih =>
      rw [firstRepeated]
      split
      · next h => simp_all
      · next h =>
          rw [ih]
          simp only [List.mem_cons, not_or, List.map_cons, List.nodup_cons, List.mem_map, not_exists,
            not_and]
          grind

end Blueprint

namespace Fake

/-- Whether the members that a class overrides can stand beside each other: no property has the name of
    another one, and no two functions conflict. -/
structure Implementation.HasDistinctOverrides (c : Implementation) : Prop where
  properties : (c.properties.map PropertyMember.name).Nodup
  functions : (c.functions.map FunctionMember.function).Pairwise fun f g => ¬ f.ConflictsWith g

theorem map_name_ofBlueprint (b : Blueprint) :
    (Implementation.ofBlueprint b (.ofBlueprint b)).properties.map PropertyMember.name =
      b.properties.map Blueprint.Property.name := by
  rw [← SlotTable.map_property_ofBlueprint b, List.map_map]
  exact List.map_map ..

end Fake

namespace FakeFile

open Fake

variable {options : FileOptions} {b : Blueprint} {file : FakeFile}

theorem nodup_overloads (h : generate options b = .ok file) :
    (b.functions.map Blueprint.Function.overload).Nodup := by
  have hnone := (generate_eq_ok_iff.1 h).1
  unfold Blueprint.renderError? at hnone
  split at hnone
  · cases hnone
  · exact (Blueprint.firstRepeated_eq_none_iff.1 (Option.map_eq_none_iff.1 hnone)).1

/-- Two functions of a file can conflict only by a renaming that changes the name of a type parameter.
    The overrides can stand beside each other if and only if no property is declared twice and all
    functions have different keys. -/
theorem hasDistinctOverrides_iff (h : generate options b = .ok file) :
    (file.implementation.functions.map FunctionMember.function).Pairwise (fun f g =>
      ∀ r, f.name = g.name → f.Renames g r →
        ∃ name ∈ f.mentioned, name ∈ f.typeParamNames ∧ r name ≠ name) ∧
    (file.implementation.HasDistinctOverrides ↔
      (b.properties.map Blueprint.Property.name).Nodup ∧
        (b.functions.map Blueprint.Function.key).Nodup) := by
  have hproperties : file.implementation.properties.map PropertyMember.name =
      b.properties.map Blueprint.Property.name := by
    rw [eq_build_of_generate h]
    exact map_name_ofBlueprint b
  have hfunctions : file.implementation.functions.map FunctionMember.function = b.functions := by
    rw [eq_build_of_generate h]
    exact map_function_ofBlueprint b
  constructor
  · rw [hfunctions]
    have hoverloads := List.pairwise_map.1 (nodup_overloads h)
    refine hoverloads.imp fun {f g} hne r hname hr => ?_
    by_contra hkept
    refine hne (Prod.ext hname (hr.valueTypes_eq fun name hmem hown => ?_))
    by_contra hchanged
    exact hkept ⟨name, hmem, hown, hchanged⟩
  · have hkeys : (b.functions.map Blueprint.Function.key).Nodup ↔
        b.functions.Pairwise fun f g => ¬ f.ConflictsWith g := by
      rw [List.Nodup, List.pairwise_map]
      simp only [Blueprint.Function.conflictsWith_iff, ne_eq]
    rw [hkeys, ← hproperties, ← hfunctions]
    exact ⟨fun h => ⟨h.properties, h.functions⟩, fun h => ⟨h.1, h.2⟩⟩

/-- A function that puts a value away, with one type parameter of its own. -/
def put (typeParam : String) (value : Ty) : Blueprint.Function where
  name := "put"
  parameters := [⟨"value", value, false, false⟩]
  result := .unit
  isSuspend := false
  isInline := false
  typeParams := [⟨typeParam, [], false⟩]
  inherited := .abstract

/-- An interface `Shelf` with the given functions and with properties of the given names. -/
def shelf (functions : List Blueprint.Function) (names : List String) : Blueprint where
  id := "Shelf"
  supertype := .interface
  package := ""
  name := "Shelf"
  typeParams := []
  functions := functions
  properties := names.map fun name => ⟨name, .primitive .int, false, false, .abstract⟩
  generics := .onMethods

/-- A value and a list of values are different parameters, whatever type parameter they mention. -/
theorem hasDistinctOverrides_iff_shelf :
    ∃ file, generate ⟨true⟩ (shelf [put "T" (.param "T"),
        put "U" (.apply ⟨"kotlin.collections", "List"⟩ [.param "U"])] ["size"]) = .ok file ∧
      file.implementation.HasDistinctOverrides :=
  have hfile : generate ⟨true⟩ (shelf _ _) = .ok _ := rfl
  ⟨_, hfile, (hasDistinctOverrides_iff hfile).2.2 (by decide +kernel)⟩

/-- Functions that only call their type parameter differently get a file in which they conflict, and so
    do properties of one name. -/
theorem exists_conflicting_overrides :
    (∃ file, generate ⟨true⟩ (shelf [put "T" (.param "T"), put "U" (.param "U")] []) = .ok file ∧
      ¬ file.implementation.HasDistinctOverrides) ∧
    ∃ file, generate ⟨true⟩ (shelf [] ["size", "size"]) = .ok file ∧
      ¬ file.implementation.HasDistinctOverrides :=
  ⟨⟨_, rfl, fun h => absurd h.functions (by decide +kernel)⟩,
    ⟨_, rfl, fun h => absurd h.properties (by decide +kernel)⟩⟩

end FakeFile

end KotlinFakes
