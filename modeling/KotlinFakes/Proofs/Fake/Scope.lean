import KotlinFakes.Proofs.Callees.Capture
import KotlinFakes.Proofs.Ty.Erasure
import KotlinFakes.Proofs.TypeText.RoundTrip
import KotlinFakes.Proofs.WellNamed

/-!
# Type parameters in scope

A class-level declaration of a fake can name the type parameters of the class only, and a method those
and its own. The file of a well-scoped subject is well scoped, because every type that leaves a method
for a field is erased before.
-/

namespace KotlinFakes

/-! ## References -/

namespace TypeRef

theorem params_marked (isNullable : Bool) (t : Ty) : (marked isNullable t).params = t.params := by
  cases isNullable with
  | false => rfl
  | true => exact Ty.params_orNull t

theorem params_classTy (fullName : String) : (classTy fullName).params = [] := by
  unfold classTy
  split <;> rw [Ty.params]

mutual
theorem params_toTy : ∀ r : TypeRef, r.toTy.params = r.params
  | .ofClass fullName args isNullable => by
      have hargs := params_toTys args
      rw [toTy, params_marked, params, ← hargs]
      split
      · next hnil => rw [hnil, params_classTy, Ty.paramsAll]
      · next first rest hcons => rw [hcons, Ty.params]
  | .ofParam name isNullable => by rw [toTy, params_marked, params, Ty.params]
  | .ofFunction ps result isSuspend isNullable => by
      rw [toTy, params_marked, params, Ty.params, params_toTys ps, params_toTy result]
  | .star => by rw [toTy, Ty.star, Ty.params, params]
  | .unresolved text => by rw [toTy, Ty.params, params]
theorem params_toTys : ∀ rs : List TypeRef, Ty.paramsAll (toTys rs) = allParams rs
  | [] => by rw [toTys, Ty.paramsAll, allParams]
  | r :: rs => by rw [toTys, Ty.paramsAll, allParams, params_toTy r, params_toTys rs]
end

end TypeRef

/-! ## What is written where -/

namespace Default

mutual
/-- The type arguments that a default value writes. -/
def typeArgs : Default → List Ty
  | .call _ args => args
  | .success _ payload | .closure _ payload => payload.typeArgs
  | .tuple _ parts => allTypeArgs parts
  | .null | .zero _ | .emptyArray _ | .identity | .runBlock | .idle _ | .failure => []
def allTypeArgs : List Default → List Ty
  | [] => []
  | d :: ds => d.typeArgs ++ allTypeArgs ds
end

end Default

namespace Fake

/-- The type arguments that a behavior writes before it is configured. A call of the inherited function
    is pinned to `Any?`. -/
def Initial.typeArgs : Initial → List Ty
  | .callSuper call => List.replicate call.typeArgs .top
  | .value default => default.typeArgs
  | .readSuper _ | .writeSuper _ | .remember _ | .failing _ => []

/-- The types that the field of a behavior writes. -/
def Behavior.types (behavior : Behavior) : List Ty := behavior.type :: behavior.initial.typeArgs

/-- The types that a configure method writes. -/
def Configure.types (c : Configure) : List Ty :=
  c.type :: c.cast.toList ++ c.typeParams.flatMap TypeParam.bounds

/-- The types that the override of a function writes. -/
def FunctionMember.overrideTypes (m : FunctionMember) : List Ty :=
  m.function.mentionedTypes ++ m.arguments.flatMap (fun a => a.cast.toList) ++ m.resultCast.toList

/-- The types that are written at the level of the implementation class. -/
def Implementation.classTypes (c : Implementation) : List Ty :=
  c.typeParams.flatMap TypeParam.bounds ++ c.properties.map PropertyMember.type ++
    c.behaviors.flatMap Behavior.types

def ConfigurationMethod.types (m : ConfigurationMethod) : List Ty :=
  m.type :: m.typeParams.flatMap TypeParam.bounds

end Fake

/-! ## Well-scoped subjects and files -/

/-- Whether every type parameter that a subject refers to is declared around the reference. -/
structure Subject.IsScoped (s : Subject) : Prop where
  bounds : ∀ r ∈ s.typeParams.flatMap TypeParam.bounds, r.params ⊆ s.typeParams.map TypeParam.name
  functions : ∀ f, .function f ∈ s.members → ∀ r ∈ f.typeRefs,
    r.params ⊆ f.typeParams.map TypeParam.name ++ s.typeParams.map TypeParam.name
  properties : ∀ p, .property p ∈ s.members → ∀ r ∈ (Member.property p).typeRefs,
    r.params ⊆ s.typeParams.map TypeParam.name

/-- Whether every type parameter that a file writes is declared around the place where it stands. -/
structure FakeFile.IsScoped (file : FakeFile) : Prop where
  classTypes : ∀ t ∈ file.implementation.classTypes,
    t.params ⊆ file.implementation.typeParams.map TypeParam.name
  overrides : ∀ m ∈ file.implementation.functions, ∀ t ∈ m.overrideTypes,
    t.params ⊆ m.function.typeParamNames ++ file.implementation.typeParams.map TypeParam.name
  configures : ∀ c ∈ file.implementation.configures, ∀ t ∈ c.types,
    t.params ⊆ c.typeParams.map TypeParam.name ++
      file.implementation.typeParams.map TypeParam.name
  configuration : ∀ m ∈ file.configuration.methods, ∀ t ∈ m.types,
    t.params ⊆ m.typeParams.map TypeParam.name ++ file.configuration.typeParams.map TypeParam.name
  stored : ∀ m ∈ file.implementation.functions, ∀ t ∈ m.behavior.types,
    ∀ name ∈ m.function.typeParamNames, name ∉ t.params

/-- The same of a blueprint. -/
structure Blueprint.IsScoped (b : Blueprint) : Prop where
  bounds : ∀ t ∈ b.typeParams.flatMap TypeParam.bounds, t.params ⊆ b.typeParams.map TypeParam.name
  functions : ∀ f ∈ b.functions, ∀ t ∈ f.mentionedTypes,
    t.params ⊆ f.typeParamNames ++ b.typeParams.map TypeParam.name
  properties : ∀ p ∈ b.properties, p.type.params ⊆ b.typeParams.map TypeParam.name
  generics_eq : b.generics = .ofLevels (!b.typeParams.isEmpty)
    (b.functions.any fun f => !f.typeParams.isEmpty)

namespace Subject

theorem params_boundTy (r : TypeRef) : (TypeParam.boundTy r).params ⊆ r.params := by
  unfold TypeParam.boundTy
  split
  · rw [Ty.params_top]
    exact List.nil_subset _
  · rw [TypeRef.params_toTy]
    exact List.Subset.refl _

theorem params_lower_bounds {p : TypeParam} {names : List String}
    (h : ∀ r ∈ p.bounds, r.params ⊆ names) : ∀ t ∈ p.lower.bounds, t.params ⊆ names := by
  intro t ht
  obtain ⟨r, hr, rfl⟩ := List.mem_map.1 ht
  exact List.Subset.trans (params_boundTy r) (h r (List.mem_filter.1 hr).1)

theorem map_name_lower (ps : List TypeParam) :
    (ps.map TypeParam.lower).map KotlinFakes.TypeParam.name = ps.map TypeParam.name := by
  rw [List.map_map]
  rfl

theorem params_lower {inherited : Inherited} {f : Function} {names : List String}
    (h : ∀ r ∈ f.typeRefs, r.params ⊆ names) :
    ∀ t ∈ (f.lower inherited).mentionedTypes, t.params ⊆ names := by
  simp only [Function.typeRefs, List.forall_mem_append, List.forall_mem_flatMap,
    List.forall_mem_map, List.forall_mem_singleton] at h
  obtain ⟨⟨hbounds, hparameters⟩, hresult⟩ := h
  simp only [Blueprint.Function.mentionedTypes, Function.lower, Function.lowerParameter,
    List.forall_mem_append, List.forall_mem_flatMap, List.forall_mem_map, List.forall_mem_singleton,
    TypeRef.params_toTy]
  exact ⟨⟨fun p hp => params_lower_bounds (hbounds p hp), hparameters⟩, hresult⟩

theorem params_lower? {inherited : Inherited} {p : Property} {lowered : Blueprint.Property}
    {names : List String} (h : ∀ r ∈ (Member.property p).typeRefs, r.params ⊆ names)
    (hlower : p.lower? inherited = some lowered) : lowered.type.params ⊆ names := by
  obtain ⟨r, hr, rfl⟩ := Option.map_eq_some_iff.1 hlower
  rw [TypeRef.params_toTy]
  refine h r ?_
  unfold Property.type? at hr
  cases hgetter : p.getterType <;> simp_all [Member.typeRefs]

theorem IsScoped.blueprint {s : Subject} (hs : s.IsScoped) {analysis : Analysis}
    (h : s.analyze = .ok analysis) : analysis.blueprint.IsScoped := by
  obtain ⟨supertype, properties, -, hproperties, hb⟩ := blueprint_of_analyze h
  rw [hb]
  constructor
  · dsimp only
    rw [map_name_lower, List.flatMap_map, List.forall_mem_flatMap]
    exact fun p hp => params_lower_bounds (List.forall_mem_flatMap.1 hs.bounds p hp)
  · dsimp only
    rw [map_name_lower, List.forall_mem_map]
    rintro ⟨inherited, f⟩ hentry
    have hf := hs.functions f (mem_members_of_fakeableFunctions hentry)
    change ∀ t ∈ (f.lower inherited).mentionedTypes,
      t.params ⊆ (f.typeParams.map TypeParam.lower).map KotlinFakes.TypeParam.name ++ _
    rw [map_name_lower]
    exact params_lower hf
  · dsimp only
    rw [map_name_lower]
    intro p hp
    obtain ⟨inherited, q, hq, hlower⟩ := exists_of_mem_lowerProperties hproperties hp
    exact params_lower? (hs.properties q (mem_members_of_fakeableProperties hq)) hlower
  · rfl

end Subject

/-! ## Well-scoped behaviors -/

namespace Default

/-- Whether the type arguments of a default value mention only given type parameters, and none that is
    erased. -/
def Keeps (erased names : List String) (d : Default) : Prop :=
  ∀ arg ∈ d.typeArgs, ∀ name ∈ arg.params, name ∈ names ∧ name ∉ erased

theorem keeps_of_nil {erased names : List String} {d : Default} (h : d.typeArgs = []) :
    d.Keeps erased names := by
  intro arg harg
  rw [h] at harg
  cases harg

theorem Keeps.mono {erased names names' : List String} {d : Default} (h : d.Keeps erased names)
    (hsub : names ⊆ names') : d.Keeps erased names' :=
  fun arg harg name hname => (h arg harg name hname).imp_left fun hmem => hsub hmem

theorem keeps_callFor (erased : List String) (factory : Factory) (args : List Ty) :
    (callFor erased factory args).Keeps erased (Ty.paramsAll args) := by
  unfold callFor
  split
  · intro arg harg name hname
    obtain ⟨t, ht, rfl⟩ := List.mem_map.1 harg
    rw [Ty.mem_params_erase] at hname
    refine ⟨?_, hname.2⟩
    rw [Ty.paramsAll_eq_flatMap]
    refine List.mem_flatMap.2 ⟨t, ht, ?_⟩
    cases hprojected : t.projected? with
    | none => simpa [hprojected] using hname.1
    | some inner =>
        rw [hprojected, Option.getD_some] at hname
        exact Ty.params_subset_of_projected? hprojected hname.1
  · exact keeps_of_nil rfl

theorem typeArgs_ofName (name : QualifiedName) : (ofName name).typeArgs = [] := by
  unfold ofName
  split
  · rw [typeArgs]
  · split <;> rw [typeArgs]

theorem mem_allTypeArgs {arg : Ty} {ds : List Default} :
    arg ∈ allTypeArgs ds ↔ ∃ d ∈ ds, arg ∈ d.typeArgs := by
  induction ds with
  | nil => simp [allTypeArgs]
  | cons d ds ih => simp [allTypeArgs, ih]

theorem keeps_tuple {erased names : List String} {name : QualifiedName} {parts : List Default}
    (h : ∀ d ∈ parts, d.Keeps erased names) : (tuple name parts).Keeps erased names := by
  intro arg harg
  rw [typeArgs, mem_allTypeArgs] at harg
  obtain ⟨d, hd, harg⟩ := harg
  exact h d hd arg harg

theorem keeps_ofTy (erased : List String) (t : Ty) : (ofTy erased t).Keeps erased t.params := by
  refine ofTy_induction (motive := fun t d => d.Keeps erased t.params)
    ?failure ?null ?zero ?named ?success ?tuple ?call ?identity ?runBlock ?idle ?closure t
  case failure | null | zero | identity | runBlock | idle => intros; exact keeps_of_nil rfl
  case named => exact fun name => keeps_of_nil (typeArgs_ofName name)
  case success =>
    intro name first rest _ _ ih
    rw [Ty.params, Ty.paramsAll]
    exact ih.mono (List.subset_append_left _ _)
  case tuple =>
    intro name args _ _ ih
    rw [ofTys_eq_map, Ty.params, Ty.paramsAll_eq_flatMap]
    refine keeps_tuple (List.forall_mem_map.2 fun t ht => (ih t ht).mono fun param hparam => ?_)
    exact List.mem_flatMap.2 ⟨t, ht, hparam⟩
  case call =>
    intro name shape factory args _ _
    rw [Ty.params]
    exact keeps_callFor erased factory args
  case closure =>
    intro params isSuspend result ih
    rw [Ty.params]
    exact ih.mono (List.subset_append_right _ _)

end Default

/-! ## Well-scoped files -/

namespace Blueprint

theorem Parameter.params_valueType (p : Parameter) : p.valueType.params = p.type.params := by
  unfold valueType
  split
  · exact Ty.params_varargArray p.type
  · rfl

theorem Function.mem_params_signatureType {f : Function} {name : String}
    (h : name ∈ f.signatureType.params) : ∃ t ∈ f.mentionedTypes, name ∈ t.params := by
  rw [signatureType, Ty.params, List.mem_append, Ty.paramsAll_eq_flatMap, List.mem_flatMap] at h
  simp only [mentionedTypes, List.mem_append, List.mem_singleton]
  obtain ⟨t, ht, hname⟩ | hname := h
  · obtain ⟨p, hp, rfl⟩ := List.mem_map.1 ht
    rw [Parameter.params_valueType] at hname
    exact ⟨p.type, .inl (.inr (List.mem_map_of_mem hp)), hname⟩
  · exact ⟨f.result, .inr rfl, hname⟩

variable {b : Blueprint}

theorem classTypeParams_eq (h : b.generics = .ofLevels (!b.typeParams.isEmpty)
    (b.functions.any fun f => !f.typeParams.isEmpty)) : b.classTypeParams = b.typeParams := by
  unfold classTypeParams
  rw [h]
  cases hparams : b.typeParams with
  | nil => split <;> rfl
  | cons p ps => cases hany : b.functions.any fun f => !f.typeParams.isEmpty <;> rfl

theorem erasedNames_eq (h : b.generics = .ofLevels (!b.typeParams.isEmpty)
    (b.functions.any fun f => !f.typeParams.isEmpty)) {f : Function} (hf : f ∈ b.functions) :
    b.erasedNames f = f.typeParamNames := by
  unfold erasedNames
  rw [h]
  cases hparams : f.typeParams with
  | nil => simp [Function.typeParamNames, hparams]
  | cons p ps =>
      have hany : (b.functions.any fun f => !f.typeParams.isEmpty) = true :=
        List.any_eq_true.2 ⟨f, hf, by rw [hparams]; rfl⟩
      rw [hany]
      cases b.typeParams.isEmpty <;> rfl

namespace IsScoped

open Fake

theorem functionBehavior (h : b.IsScoped) {s : FunctionSlot} (hs : s.function ∈ b.functions) {t : Ty}
    (ht : t ∈ (FunctionMember.ofSlot b s).behavior.types) {name : String} (hname : name ∈ t.params) :
    name ∈ b.typeParams.map TypeParam.name ∧ name ∉ s.function.typeParamNames := by
  have herased := erasedNames_eq h.generics_eq hs
  have hkept : name ∈ s.function.signatureType.params ∧ name ∉ s.function.typeParamNames := by
    obtain rfl | ht := List.mem_cons.1 ht
    · change name ∈ (s.function.signatureType.erase (b.erasedNames s.function)).params at hname
      rwa [Ty.mem_params_erase, herased] at hname
    · change t ∈ (functionInitial b s.function).typeArgs at ht
      unfold functionInitial at ht
      split at ht
      · rw [(List.mem_replicate.1 ht).2, Ty.params_top] at hname
        cases hname
      · cases ht
      · rw [herased] at ht
        exact Default.keeps_ofTy _ _ t ht name hname
  obtain ⟨u, hu, hmem⟩ := Function.mem_params_signatureType hkept.1
  exact ⟨(List.mem_append.1 (h.functions _ hs u hu hmem)).resolve_left hkept.2, hkept.2⟩

theorem getterType (h : b.IsScoped) {p : Property} (hp : p ∈ b.properties) :
    p.getterType.params ⊆ b.typeParams.map TypeParam.name := by
  rw [Property.getterType, Ty.params, Ty.paramsAll, List.nil_append]
  exact h.properties p hp

theorem setterType (h : b.IsScoped) {p : Property} (hp : p ∈ b.properties) :
    p.setterType.params ⊆ b.typeParams.map TypeParam.name := by
  rw [Property.setterType, Ty.params, Ty.paramsAll, Ty.paramsAll, Ty.unit, Ty.params, List.append_nil,
    List.append_nil]
  exact h.properties p hp

theorem propertyBehavior (h : b.IsScoped) {s : PropertySlots} (hs : s.property ∈ b.properties)
    {behavior : Behavior} (hbehavior : behavior ∈ (PropertyMember.ofSlots b s).behaviors) {t : Ty}
    (ht : t ∈ behavior.types) : t.params ⊆ b.typeParams.map TypeParam.name := by
  obtain rfl | hbehavior := List.mem_cons.1 hbehavior
  · obtain rfl | ht := List.mem_cons.1 ht
    · exact h.getterType hs
    · change t ∈ (getterInitial b s.property).typeArgs at ht
      unfold getterInitial at ht
      split at ht
      · cases ht
      · cases ht
      · intro name hname
        exact h.getterType hs (Default.keeps_ofTy _ _ t ht name hname).1
  · obtain ⟨slot, -, rfl⟩ := Option.map_eq_some_iff.1 (Option.mem_toList.1 hbehavior)
    obtain rfl | ht := List.mem_cons.1 ht
    · exact h.setterType hs
    · -- A setter starts without a default value.
      change t ∈ (setterInitial s.getter s.property).typeArgs at ht
      unfold setterInitial at ht
      split at ht <;> cases ht

theorem signatureType (h : b.IsScoped) {f : Function} (hf : f ∈ b.functions) :
    f.signatureType.params ⊆ f.typeParamNames ++ b.typeParams.map TypeParam.name := by
  intro name hname
  obtain ⟨t, ht, hmem⟩ := Function.mem_params_signatureType hname
  exact h.functions f hf t ht hmem

theorem functionBounds (h : b.IsScoped) {f : Function} (hf : f ∈ b.functions) {t : Ty}
    (ht : t ∈ f.typeParams.flatMap TypeParam.bounds) :
    t.params ⊆ f.typeParamNames ++ b.typeParams.map TypeParam.name :=
  h.functions f hf t (List.mem_append_left _ (List.mem_append_left _ ht))

theorem override (h : b.IsScoped) {s : FunctionSlot} (hs : s.function ∈ b.functions) {t : Ty}
    (ht : t ∈ (FunctionMember.ofSlot b s).overrideTypes) :
    t.params ⊆ s.function.typeParamNames ++ b.typeParams.map TypeParam.name := by
  rw [FunctionMember.overrideTypes, List.mem_append, List.mem_append] at ht
  obtain (ht | ht) | ht := ht
  · exact h.functions _ hs t ht
  · obtain ⟨argument, hargument, ht⟩ := List.mem_flatMap.1 ht
    obtain ⟨p, hp, rfl⟩ := List.mem_map.1 hargument
    have hcast := Option.mem_toList.1 ht
    unfold FunctionMember.argument at hcast
    dsimp only at hcast
    split at hcast
    · obtain rfl := Option.some.inj hcast
      intro name hname
      rw [Ty.mem_params_erase, Parameter.params_valueType] at hname
      have htype : p.type ∈ s.function.mentionedTypes :=
        List.mem_append_left _ (List.mem_append_right _ (List.mem_map_of_mem hp))
      exact h.functions _ hs _ htype hname.1
    · cases hcast
  · have hcast := Option.mem_toList.1 ht
    unfold FunctionMember.ofSlot at hcast
    dsimp only at hcast
    split at hcast
    · obtain rfl := Option.some.inj hcast
      exact h.functions _ hs _ (List.mem_append_right _ (List.mem_singleton_self _))
    · cases hcast

theorem configure (h : b.IsScoped) {s : FunctionSlot} (hs : s.function ∈ b.functions) {t : Ty}
    (ht : t ∈ (FunctionMember.ofSlot b s).configure.types) :
    t.params ⊆ s.function.typeParamNames ++ b.typeParams.map TypeParam.name := by
  rw [Configure.types, List.cons_append, List.mem_cons, List.mem_append] at ht
  obtain rfl | ht | ht := ht
  · exact h.signatureType hs
  · have hcast := Option.mem_toList.1 ht
    unfold FunctionMember.ofSlot at hcast
    dsimp only at hcast
    split at hcast
    · cases hcast
    · obtain rfl := Option.some.inj hcast
      intro name hname
      exact h.signatureType hs (Ty.mem_params_erase.1 hname).1
  · exact h.functionBounds hs ht

/-- The file of a well-scoped blueprint is well scoped. -/
theorem build (h : b.IsScoped) (options : FileOptions) : (FakeFile.build options b).IsScoped := by
  have hclass : (FakeFile.build options b).implementation.typeParams = b.typeParams :=
    classTypeParams_eq h.generics_eq
  have hconfiguration : (FakeFile.build options b).configuration.typeParams = b.typeParams :=
    classTypeParams_eq h.generics_eq
  constructor
  · rw [hclass]
    intro t ht
    simp only [Implementation.classTypes, Implementation.behaviors, List.mem_append, List.mem_flatMap]
      at ht
    obtain (⟨p, hp, ht⟩ | ht) | ⟨behavior, ⟨m, hm, hbehavior⟩ | hbehavior, ht⟩ := ht
    · exact h.bounds t (List.mem_flatMap.2 ⟨p, hclass ▸ hp, ht⟩)
    · obtain ⟨m, hm, rfl⟩ := List.mem_map.1 ht
      obtain ⟨s, hs, rfl⟩ := List.mem_map.1 hm
      exact h.properties _ (SlotTable.property_mem_of_mem hs)
    · obtain ⟨s, hs, rfl⟩ := List.mem_map.1 hm
      exact h.propertyBehavior (SlotTable.property_mem_of_mem hs) hbehavior ht
    · obtain ⟨m, hm, rfl⟩ := List.mem_map.1 hbehavior
      obtain ⟨s, hs, rfl⟩ := List.mem_map.1 hm
      intro name hname
      exact (h.functionBehavior (SlotTable.function_mem_of_mem hs) ht hname).1
  · rw [hclass]
    intro m hm t ht
    obtain ⟨s, hs, rfl⟩ := List.mem_map.1 hm
    exact h.override (SlotTable.function_mem_of_mem hs) ht
  · rw [hclass]
    intro c hc t ht
    obtain hc | hc := List.mem_append.1 hc
    · obtain ⟨m, hm, hc⟩ := List.mem_flatMap.1 hc
      obtain ⟨s, hs, rfl⟩ := List.mem_map.1 hm
      obtain ⟨behavior, hbehavior, rfl⟩ := List.mem_map.1 hc
      obtain rfl : t = behavior.type := by simpa [Configure.types] using ht
      exact h.propertyBehavior (SlotTable.property_mem_of_mem hs) hbehavior List.mem_cons_self
    · obtain ⟨m, hm, rfl⟩ := List.mem_map.1 hc
      obtain ⟨s, hs, rfl⟩ := List.mem_map.1 hm
      exact h.configure (SlotTable.function_mem_of_mem hs) ht
  · rw [hconfiguration]
    intro m hm t ht
    obtain hm | hm := List.mem_append.1 hm
    · obtain ⟨s, hs, hm⟩ := List.mem_flatMap.1 hm
      have hproperty := SlotTable.property_mem_of_mem hs
      obtain rfl | hm := List.mem_cons.1 hm
      · obtain rfl : t = s.property.getterType := by simpa [ConfigurationMethod.types] using ht
        exact h.getterType hproperty
      · obtain ⟨slot, -, rfl⟩ := List.mem_map.1 hm
        obtain rfl : t = s.property.setterType := by simpa [ConfigurationMethod.types] using ht
        exact h.setterType hproperty
    · obtain ⟨s, hs, rfl⟩ := List.mem_map.1 hm
      obtain rfl | ht := List.mem_cons.1 ht
      · exact h.signatureType (SlotTable.function_mem_of_mem hs)
      · exact h.functionBounds (SlotTable.function_mem_of_mem hs) ht
  · intro m hm t ht name hname hmem
    obtain ⟨s, hs, rfl⟩ := List.mem_map.1 hm
    exact (h.functionBehavior (SlotTable.function_mem_of_mem hs) ht hmem).2 hname

end IsScoped

end Blueprint

namespace Subject

/-- The file of a well-scoped subject is well scoped, in a class with the type parameters of the subject.
    No type parameter of a function is left in the field of its behavior, not even one that hides a type
    parameter of the class. -/
theorem IsScoped.scoped_file {s : Subject} (hs : s.IsScoped) {analysis : Analysis}
    (h : s.analyze = .ok analysis) {options : FileOptions} {file : FakeFile}
    (hfile : FakeFile.generate options analysis.blueprint = .ok file) :
    file.implementation.typeParams.map KotlinFakes.TypeParam.name =
        s.typeParams.map TypeParam.name ∧
      file.configuration.typeParams = file.implementation.typeParams ∧ file.IsScoped := by
  have hscoped := hs.blueprint h
  rw [FakeFile.eq_build_of_generate hfile]
  refine ⟨?_, rfl, hscoped.build options⟩
  obtain ⟨supertype, properties, -, -, hb⟩ := blueprint_of_analyze h
  have hclass := Blueprint.classTypeParams_eq hscoped.generics_eq
  change analysis.blueprint.classTypeParams.map _ = _
  rw [hclass, hb]
  exact map_name_lower s.typeParams

/-- An interface with a type parameter and two functions, one of which hides it by its own. -/
def collector : Subject :=
  ⟨"app", "Collector", .interface, [⟨"T", [], false⟩],
    [.function ⟨"collect", [⟨"T", [], false⟩],
      [⟨"first", .ofParam "T" true, false, false⟩,
        ⟨"count", .ofClass "kotlin.Int" [] false, false, false⟩,
        ⟨"rest", .ofParam "T" false, true, false⟩],
      .ofClass "kotlin.collections.List" [.ofParam "T" false] false, false, false, .abstract, .declared⟩,
    .function ⟨"last", [], [], .ofParam "T" true, false, false, .abstract, .declared⟩],
    ["Fake"], 0, none⟩

/-- The function that hides the type parameter is stored without it and the other one is not. -/
theorem IsScoped.scoped_file_collector : ∃ analysis file, collector.analyze = .ok analysis ∧
    FakeFile.generate ⟨true⟩ analysis.blueprint = .ok file ∧ file.IsScoped ∧
      file.implementation.functions.map (fun m => m.behavior.types.map Ty.params) =
        [[[], []], [["T"]]] := by
  have hscoped : collector.IsScoped := by
    refine ⟨by decide, fun f hf => ?_, fun p hp => ?_⟩
    · simp only [collector, List.mem_cons, Member.function.injEq, List.not_mem_nil, or_false] at hf
      obtain rfl | rfl := hf <;> decide
    · simp [collector] at hp
  have hanalysis : collector.analyze = .ok _ := rfl
  refine ⟨_, _, hanalysis, rfl, (hscoped.scoped_file hanalysis rfl).2.2, ?_⟩
  decide +kernel

end Subject

end KotlinFakes
