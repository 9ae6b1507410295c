import KotlinFakes.Proofs.Callees.Default
import Mathlib.Logic.Basic

/-!
# Callees by type

Which types have no safe value, and which factories build the values of the others. The default of a
type without a safe value calls `error` and nothing else; any other default calls just the factories of
its type.
-/

namespace KotlinFakes

/-- Whether a class is one of the arrays made for primitives. -/
def QualifiedName.IsArrayClass (name : QualifiedName) : Prop :=
  name.package = "kotlin" ∧ name.simple ≠ "Array" ∧ "Array".toList <:+ name.simple.toList

namespace Ty

/-- A type that has no safe value. -/
inductive Fails (erased : List String) : Ty → Prop where
  | nothing : Fails erased (.primitive .nothing)
  | param (name : String) : Fails erased (.param name)
  | named {name : QualifiedName} (harray : ¬ name.IsArrayClass)
      (hcontainer : Factory.containers.lookup name.full = none) : Fails erased (.named name)
  | apply {name : QualifiedName} (args : List Ty) (h : DefaultShape.ofName? name.full = none) :
      Fails erased (.apply name args)
  | noPayload {name : QualifiedName} (h : DefaultShape.ofName? name.full = some .result) :
      Fails erased (.apply name [])
  | payload {name : QualifiedName} {first : Ty} (rest : List Ty)
      (h : DefaultShape.ofName? name.full = some .result) (hfirst : Fails erased first) :
      Fails erased (.apply name (first :: rest))
  | part {name : QualifiedName} {args : List Ty} {arg : Ty}
      (h : DefaultShape.ofName? name.full = some .tuple) (harg : arg ∈ args)
      (hfails : Fails erased arg) : Fails erased (.apply name args)
  | element {name : QualifiedName} {args : List Ty} {arg : Ty}
      (h : DefaultShape.ofName? name.full = some .array) (harg : arg ∈ args)
      (hkept : Default.mentionsKept erased arg) : Fails erased (.apply name args)
  | function {params : List Ty} {isSuspend : Bool} {result : Ty} (hidentity : params ≠ [result])
      (hrun : ¬ Default.runsBlock erased params isSuspend result) (hunit : ¬ result.isUnit)
      (hresult : Fails erased result) : Fails erased (.function params isSuspend result)

/-- A factory that builds the value of a type, or a part of it. -/
inductive Builds (erased : List String) : Ty → Factory → Prop where
  | named {name : QualifiedName} {factory : Factory} (harray : ¬ name.IsArrayClass)
      (h : Factory.containers.lookup name.full = some factory) : Builds erased (.named name) factory
  | apply {name : QualifiedName} (args : List Ty) {factory : Factory}
      (h : DefaultShape.ofName? name.full = some (.container factory)) :
      Builds erased (.apply name args) factory
  | payload {name : QualifiedName} {first : Ty} (rest : List Ty) {factory : Factory}
      (h : DefaultShape.ofName? name.full = some .result) (hfirst : Builds erased first factory) :
      Builds erased (.apply name (first :: rest)) factory
  | part {name : QualifiedName} {args : List Ty} {arg : Ty} {factory : Factory}
      (h : DefaultShape.ofName? name.full = some .tuple) (hsafe : ∀ arg ∈ args, ¬ Fails erased arg)
      (harg : arg ∈ args) (hbuilds : Builds erased arg factory) : Builds erased (.apply name args) factory
  | array {name : QualifiedName} {args : List Ty}
      (h : DefaultShape.ofName? name.full = some .array)
      (hkept : ∀ arg ∈ args, ¬ Default.mentionsKept erased arg) :
      Builds erased (.apply name args) .emptyArray
  | function {params : List Ty} {isSuspend : Bool} {result : Ty} {factory : Factory}
      (hidentity : params ≠ [result]) (hrun : ¬ Default.runsBlock erased params isSuspend result)
      (hunit : ¬ result.isUnit) (hresult : Builds erased result factory) :
      Builds erased (.function params isSuspend result) factory

section Shapes

variable {erased : List String} {name : QualifiedName} {args : List Ty} {factory : Factory}

theorem fails_named_iff : Fails erased (.named name) ↔
    ¬ name.IsArrayClass ∧ Factory.containers.lookup name.full = none := by
  refine ⟨fun hfails => ?_, fun ⟨harray, h⟩ => .named harray h⟩
  cases hfails with
  | named harray h => exact ⟨harray, h⟩

theorem builds_named_iff : Builds erased (.named name) factory ↔
    ¬ name.IsArrayClass ∧ Factory.containers.lookup name.full = some factory := by
  refine ⟨fun hbuilds => ?_, fun ⟨harray, h⟩ => .named harray h⟩
  cases hbuilds with
  | named harray h => exact ⟨harray, h⟩

theorem not_builds_primitive (p : Primitive) : ¬ Builds erased (.primitive p) factory := by
  intro hbuilds
  cases hbuilds

theorem not_builds_of_shape_none (h : DefaultShape.ofName? name.full = none) :
    ¬ Builds erased (.apply name args) factory := by
  intro hbuilds
  cases hbuilds with
  | apply _ h' | payload _ h' | part h' | array h' => rw [h] at h'; cases h'

theorem not_builds_noPayload (h : DefaultShape.ofName? name.full = some .result) :
    ¬ Builds erased (.apply name []) factory := by
  intro hbuilds
  cases hbuilds with
  | part _ _ harg => cases harg
  | apply _ h' | array h' => rw [h] at h'; cases h'

theorem fails_payload_iff (h : DefaultShape.ofName? name.full = some .result) {first : Ty}
    {rest : List Ty} : Fails erased (.apply name (first :: rest)) ↔ Fails erased first := by
  refine ⟨fun hfails => ?_, .payload rest h⟩
  cases hfails with
  | payload _ _ hfirst => exact hfirst
  | apply _ h' | part h' | element h' => rw [h] at h'; cases h'

theorem builds_payload_iff (h : DefaultShape.ofName? name.full = some .result) {first : Ty}
    {rest : List Ty} :
    Builds erased (.apply name (first :: rest)) factory ↔ Builds erased first factory := by
  refine ⟨fun hbuilds => ?_, .payload rest h⟩
  cases hbuilds with
  | payload _ _ hfirst => exact hfirst
  | apply _ h' | part h' | array h' => rw [h] at h'; cases h'

theorem fails_tuple_iff (h : DefaultShape.ofName? name.full = some .tuple) :
    Fails erased (.apply name args) ↔ ∃ arg ∈ args, Fails erased arg := by
  refine ⟨fun hfails => ?_, fun ⟨_, harg, hfails⟩ => .part h harg hfails⟩
  cases hfails with
  | part _ harg hfails => exact ⟨_, harg, hfails⟩
  | apply _ h' | noPayload h' | payload _ h' | element h' => rw [h] at h'; cases h'

theorem builds_tuple_iff (h : DefaultShape.ofName? name.full = some .tuple) :
    Builds erased (.apply name args) factory ↔
      (∀ arg ∈ args, ¬ Fails erased arg) ∧ ∃ arg ∈ args, Builds erased arg factory := by
  refine ⟨fun hbuilds => ?_, fun ⟨hsafe, _, harg, hbuilds⟩ => .part h hsafe harg hbuilds⟩
  cases hbuilds with
  | part _ hsafe harg hbuilds => exact ⟨hsafe, _, harg, hbuilds⟩
  | apply _ h' | payload _ h' | array h' => rw [h] at h'; cases h'

theorem fails_array_iff (h : DefaultShape.ofName? name.full = some .array) :
    Fails erased (.apply name args) ↔ ∃ arg ∈ args, Default.mentionsKept erased arg := by
  refine ⟨fun hfails => ?_, fun ⟨_, harg, hkept⟩ => .element h harg hkept⟩
  cases hfails with
  | element _ harg hkept => exact ⟨_, harg, hkept⟩
  | apply _ h' | noPayload h' | payload _ h' | part h' => rw [h] at h'; cases h'

theorem builds_array_iff (h : DefaultShape.ofName? name.full = some .array) :
    Builds erased (.apply name args) factory ↔
      factory = .emptyArray ∧ ¬ Fails erased (.apply name args) := by
  rw [fails_array_iff h]
  constructor
  · intro hbuilds
    cases hbuilds with
    | array _ hnone => exact ⟨rfl, fun ⟨arg, harg, hkept⟩ => hnone arg harg hkept⟩
    | apply _ h' | payload _ h' | part h' => rw [h] at h'; cases h'
  · rintro ⟨rfl, hnone⟩
    exact .array h fun arg harg hkept => hnone ⟨arg, harg, hkept⟩

theorem not_fails_container {container : Factory}
    (h : DefaultShape.ofName? name.full = some (.container container)) :
    ¬ Fails erased (.apply name args) := by
  intro hfails
  cases hfails with
  | apply _ h' | noPayload h' | payload _ h' | part h' | element h' => rw [h] at h'; cases h'

theorem builds_container_iff {container : Factory}
    (h : DefaultShape.ofName? name.full = some (.container container)) :
    Builds erased (.apply name args) factory ↔ factory = container := by
  constructor
  · intro hbuilds
    cases hbuilds with
    | apply _ h' => rw [h] at h'; cases h'; rfl
    | array h' | payload _ h' | part h' => rw [h] at h'; cases h'
  · rintro rfl
    exact .apply args h

theorem fails_function_iff {params : List Ty} {isSuspend : Bool} {result : Ty} :
    Fails erased (.function params isSuspend result) ↔ params ≠ [result] ∧
      ¬ Default.runsBlock erased params isSuspend result ∧ ¬ result.isUnit ∧ Fails erased result := by
  refine ⟨fun hfails => ?_, fun ⟨hidentity, hrun, hunit, h⟩ => .function hidentity hrun hunit h⟩
  cases hfails with
  | function hidentity hrun hunit h => exact ⟨hidentity, hrun, hunit, h⟩

theorem builds_function_iff {params : List Ty} {isSuspend : Bool} {result : Ty} :
    Builds erased (.function params isSuspend result) factory ↔ params ≠ [result] ∧
      ¬ Default.runsBlock erased params isSuspend result ∧ ¬ result.isUnit ∧
        Builds erased result factory := by
  refine ⟨fun hbuilds => ?_, fun ⟨hidentity, hrun, hunit, h⟩ => .function hidentity hrun hunit h⟩
  cases hbuilds with
  | function hidentity hrun hunit h => exact ⟨hidentity, hrun, hunit, h⟩

end Shapes

end Ty

namespace Default

variable {erased : List String}

/-- Whether a default value fails with a message, if it belongs to a type that fails. -/
def FitsFailing (erased : List String) (t : Ty) (d : Default) : Prop :=
  t.Fails erased ∧ (∀ factory, ¬ t.Builds erased factory) ∧ d.isSafe = false ∧ d.callees = [.error]

/-- Whether a default value is safe and calls the factories that build its type. -/
def FitsSafe (erased : List String) (t : Ty) (d : Default) : Prop :=
  ¬ t.Fails erased ∧ d.isSafe ∧ .error ∉ d.callees ∧
    ∀ factory, .container factory ∈ d.callees ↔ t.Builds erased factory

/-- Whether a default value calls what its type says. -/
def Fits (erased : List String) (t : Ty) (d : Default) : Prop :=
  FitsFailing erased t d ∨ FitsSafe erased t d

theorem callFor_spec (erased : List String) (factory : Factory) (args : List Ty) :
    (callFor erased factory args).isSafe ∧
      (callFor erased factory args).callees = [.container factory] := by
  unfold callFor
  split <;> exact ⟨rfl, rfl⟩

theorem isArrayClass_iff {name : QualifiedName} : name.IsArrayClass ↔
    name.package = "kotlin" && name.simple != "Array" &&
      "Array".toList.isSuffixOf name.simple.toList := by
  rw [Bool.and_eq_true, Bool.and_eq_true, decide_eq_true_eq, bne_iff_ne, and_assoc,
    List.isSuffixOf_iff_suffix]
  rfl

theorem fitsSafe_of_callees_nil {t : Ty} {d : Default} (hfails : ¬ t.Fails erased)
    (hbuilds : ∀ factory, ¬ t.Builds erased factory) (hsafe : d.isSafe) (h : d.callees = []) :
    Fits erased t d :=
  .inr ⟨hfails, hsafe, by simp [h], fun factory => by simp [h, hbuilds factory]⟩

theorem fitsSafe_of_callees_singleton {t : Ty} {d : Default} {factory : Factory}
    (hfails : ¬ t.Fails erased) (hbuilds : ∀ other, t.Builds erased other ↔ other = factory)
    (hsafe : d.isSafe) (h : d.callees = [.container factory]) : Fits erased t d :=
  .inr ⟨hfails, hsafe, by simp [h], fun other => by simp [h, hbuilds other]⟩

theorem fits_primitive (p : Primitive) : Fits erased (.primitive p) (ofTy erased (.primitive p)) := by
  by_cases h : p = .nothing
  · subst h
    exact .inl ⟨.nothing, fun _ => Ty.not_builds_primitive .nothing, rfl, rfl⟩
  · have hzero : p.zero?.isSome := by cases p <;> first | rfl | exact absurd rfl h
    have hofTy : ofTy erased (.primitive p) = .zero p := by rw [ofTy, if_pos hzero]
    rw [hofTy]
    refine fitsSafe_of_callees_nil (fun hfails => ?_) (fun _ => Ty.not_builds_primitive p) rfl
      (by rw [callees, if_pos hzero])
    cases hfails
    exact h rfl

theorem fits_named (name : QualifiedName) : Fits erased (.named name) (ofTy erased (.named name)) := by
  rw [ofTy, ofName]
  split
  · next harray =>
      have harray := isArrayClass_iff.2 harray
      exact fitsSafe_of_callees_nil (fun hfails => (Ty.fails_named_iff.1 hfails).1 harray)
        (fun _ hbuilds => (Ty.builds_named_iff.1 hbuilds).1 harray) rfl rfl
  · next harray =>
      have harray : ¬ name.IsArrayClass := fun h => harray (isArrayClass_iff.1 h)
      split
      · next factory hlookup =>
          exact fitsSafe_of_callees_singleton (by simp [Ty.fails_named_iff, hlookup])
            (by simp [Ty.builds_named_iff, harray, hlookup, eq_comm]) rfl rfl
      · next hlookup =>
          exact .inl ⟨.named harray hlookup, by simp [Ty.builds_named_iff, hlookup], rfl, rfl⟩

theorem fits_result {name : QualifiedName} (h : DefaultShape.ofName? name.full = some .result)
    {first : Ty} (rest : List Ty) {d : Default} (hfirst : Fits erased first d) :
    Fits erased (.apply name (first :: rest)) (if d.isSafe then .success name d else .failure) := by
  obtain ⟨hfails, hbuilds, hsafe, -⟩ | ⟨hfails, hsafe, herror, hbuilds⟩ := hfirst
  · rw [if_neg (by simp [hsafe])]
    exact .inl ⟨(Ty.fails_payload_iff h).2 hfails,
      fun factory => (Ty.builds_payload_iff h).not.2 (hbuilds factory), rfl, rfl⟩
  · rw [if_pos hsafe]
    exact .inr ⟨(Ty.fails_payload_iff h).not.2 hfails, hsafe, herror,
      fun factory => (hbuilds factory).trans (Ty.builds_payload_iff h).symm⟩

theorem fits_tuple {name : QualifiedName} (h : DefaultShape.ofName? name.full = some .tuple)
    {args : List Ty} (hargs : ∀ arg ∈ args, Fits erased arg (ofTy erased arg)) :
    Fits erased (.apply name args)
      (if allSafe (ofTys erased args) then .tuple name (ofTys erased args) else .failure) := by
  rw [ofTys_eq_map]
  by_cases hfails : ∃ arg ∈ args, arg.Fails erased
  · obtain ⟨arg, harg, hfail⟩ := hfails
    have hall : ¬ allSafe (args.map (ofTy erased)) := fun hall => by
      have hsafe := allSafe_iff.1 hall _ (List.mem_map_of_mem harg)
      obtain ⟨-, -, hno, -⟩ | ⟨hno, -⟩ := hargs arg harg
      · rw [hno] at hsafe
        cases hsafe
      · exact hno hfail
    rw [if_neg hall]
    exact .inl ⟨(Ty.fails_tuple_iff h).2 ⟨arg, harg, hfail⟩,
      fun factory hbuilds => ((Ty.builds_tuple_iff h).1 hbuilds).1 arg harg hfail, rfl, rfl⟩
  · have hsafe : ∀ arg ∈ args, FitsSafe erased arg (ofTy erased arg) := fun arg harg =>
      (hargs arg harg).resolve_left fun hfailing => hfails ⟨arg, harg, hfailing.1⟩
    have hall : allSafe (args.map (ofTy erased)) := allSafe_iff.2 fun d hd => by
      obtain ⟨arg, harg, rfl⟩ := List.mem_map.1 hd
      exact (hsafe arg harg).2.1
    rw [if_pos hall]
    refine .inr ⟨(Ty.fails_tuple_iff h).not.2 hfails, hall, ?_, fun factory => ?_⟩
    · rw [callees, mem_allCallees]
      rintro ⟨d, hd, herror⟩
      obtain ⟨arg, harg, rfl⟩ := List.mem_map.1 hd
      exact (hsafe arg harg).2.2.1 herror
    · rw [callees, mem_allCallees, Ty.builds_tuple_iff h]
      constructor
      · rintro ⟨d, hd, hfactory⟩
        obtain ⟨arg, harg, rfl⟩ := List.mem_map.1 hd
        exact ⟨fun arg harg => (hsafe arg harg).1, arg, harg,
          ((hsafe arg harg).2.2.2 factory).1 hfactory⟩
      · rintro ⟨-, arg, harg, hbuilds⟩
        exact ⟨_, List.mem_map_of_mem harg, ((hsafe arg harg).2.2.2 factory).2 hbuilds⟩

theorem fits_array {name : QualifiedName} (h : DefaultShape.ofName? name.full = some .array)
    (args : List Ty) :
    Fits erased (.apply name args)
      (if args.any (mentionsKept erased) then .failure else callFor erased .emptyArray args) := by
  have hkept : args.any (mentionsKept erased) ↔ (Ty.apply name args).Fails erased := by
    rw [Ty.fails_array_iff h, List.any_eq_true]
  split
  · next hany =>
      exact .inl ⟨hkept.1 hany, fun factory hbuilds =>
        ((Ty.builds_array_iff h).1 hbuilds).2 (hkept.1 hany), rfl, rfl⟩
  · next hnone =>
      have hfails := hkept.not.1 hnone
      obtain ⟨hsafe, hcallees⟩ := callFor_spec erased .emptyArray args
      exact fitsSafe_of_callees_singleton hfails
        (fun other => (Ty.builds_array_iff h).trans (and_iff_left hfails)) hsafe hcallees

theorem fits_container {name : QualifiedName} {factory : Factory}
    (h : DefaultShape.ofName? name.full = some (.container factory)) (args : List Ty) :
    Fits erased (.apply name args) (callFor erased factory args) := by
  obtain ⟨hsafe, hcallees⟩ := callFor_spec erased factory args
  exact fitsSafe_of_callees_singleton (Ty.not_fails_container h)
    (fun other => Ty.builds_container_iff h) hsafe hcallees

theorem fits_function (params : List Ty) (isSuspend : Bool) {result : Ty}
    (hresult : Fits erased result (ofTy erased result)) :
    Fits erased (.function params isSuspend result)
      (ofTy erased (.function params isSuspend result)) := by
  have hnone {d : Default} (h : params = [result] ∨ runsBlock erased params isSuspend result ∨
      result.isUnit) (hsafe : d.isSafe) (hcallees : d.callees = []) :
      Fits erased (.function params isSuspend result) d := by
    refine fitsSafe_of_callees_nil (fun hfails => ?_) (fun factory hbuilds => ?_) hsafe hcallees
    · obtain ⟨hidentity, hrun, hunit, -⟩ := Ty.fails_function_iff.1 hfails
      exact h.elim hidentity (Or.elim · hrun hunit)
    · obtain ⟨hidentity, hrun, hunit, -⟩ := Ty.builds_function_iff.1 hbuilds
      exact h.elim hidentity (Or.elim · hrun hunit)
  rw [ofTy]
  split
  · next h => exact hnone (.inl h) rfl rfl
  · next hidentity =>
      split
      · next h => exact hnone (.inr (.inl h)) rfl rfl
      · next hrun =>
          split
          · next h => exact hnone (.inr (.inr h)) rfl rfl
          · next hunit =>
              -- Only here does the closure hold a value, which is the default of its result.
              have hfails : (Ty.function params isSuspend result).Fails erased ↔
                  result.Fails erased :=
                Ty.fails_function_iff.trans (by simp [hidentity, hrun, hunit])
              have hbuilds (factory : Factory) :
                  (Ty.function params isSuspend result).Builds erased factory ↔
                    result.Builds erased factory :=
                Ty.builds_function_iff.trans (by simp [hidentity, hrun, hunit])
              simpa only [Fits, FitsFailing, FitsSafe, hfails, hbuilds, callees, isSafe] using hresult

mutual
/-- The default of a type calls what the type says. -/
theorem fits_ofTy (erased : List String) : ∀ t : Ty, Fits erased t (ofTy erased t)
  | .primitive p => fits_primitive p
  | .nullable _ => fitsSafe_of_callees_nil nofun nofun rfl rfl
  | .named name => fits_named name
  | .param name => .inl ⟨.param name, nofun, rfl, rfl⟩
  | .apply name args => by
      have hargs := fits_ofTys erased args
      rw [ofTy]
      split
      · next h => exact .inl ⟨.apply args h, fun _ => Ty.not_builds_of_shape_none h, rfl, rfl⟩
      · next h =>
          cases args with
          | nil => exact .inl ⟨.noPayload h, fun _ => Ty.not_builds_noPayload h, rfl, rfl⟩
          | cons first rest =>
              rw [ofTys]
              exact fits_result h rest (hargs first List.mem_cons_self)
      · next h => exact fits_tuple h hargs
      · next h => exact fits_array h args
      · next factory h => exact fits_container h args
  | .function params isSuspend result => fits_function params isSuspend (fits_ofTy erased result)
theorem fits_ofTys (erased : List String) : ∀ ts : List Ty, ∀ t ∈ ts, Fits erased t (ofTy erased t)
  | [] => by simp
  | t :: ts => List.forall_mem_cons.2 ⟨fits_ofTy erased t, fits_ofTys erased ts⟩
end

theorem error_mem_callees_ofTy {t : Ty} : .error ∈ (ofTy erased t).callees ↔ t.Fails erased := by
  obtain ⟨hfails, -, -, hcallees⟩ | ⟨hfails, -, herror, -⟩ := fits_ofTy erased t
  · simp [hfails, hcallees]
  · simp [hfails, herror]

theorem container_mem_callees_ofTy {t : Ty} {factory : Factory} :
    .container factory ∈ (ofTy erased t).callees ↔ t.Builds erased factory := by
  obtain ⟨-, hbuilds, -, hcallees⟩ | ⟨-, -, -, hbuilds⟩ := fits_ofTy erased t
  · simp [hbuilds factory, hcallees]
  · exact hbuilds factory

end Default

end KotlinFakes
