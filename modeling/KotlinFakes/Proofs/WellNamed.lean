import KotlinFakes.Fake.File
import KotlinFakes.Proofs.Names
import KotlinFakes.Subject.Analysis

/-!
# Well-named subjects

What can be said about the names of a subject: packages and class names are dotted names, all other
names are names, and every type is resolved. The manifest does not promise this, and the generator
checks a part of it only. A well-named subject has a well-named blueprint.
-/

namespace KotlinFakes

namespace TypeRef

mutual
/-- Whether every class in a reference has a dotted name, every type parameter a name, and nothing is
    left unresolved. -/
def isWellNamed : TypeRef → Bool
  | .ofClass fullName args _ => Identifier.isDotted fullName && allWellNamed args
  | .ofParam name _ => Identifier.isValid name
  | .ofFunction params result _ _ => allWellNamed params && result.isWellNamed
  | .star => true
  | .unresolved _ => false
def allWellNamed : List TypeRef → Bool
  | [] => true
  | r :: rs => r.isWellNamed && allWellNamed rs
end

end TypeRef

/-- A well-named type, as well-named references denote them. A primitive is never spelled as a class. -/
inductive Ty.WellNamed : Ty → Prop where
  | primitive (p : Primitive) : WellNamed (.primitive p)
  | nullable {inner : Ty} (h : WellNamed inner) : WellNamed (.nullable inner)
  | apply {name : QualifiedName} {args : List Ty} (hname : name.IsCut)
      (hargs : ∀ t ∈ args, WellNamed t) : WellNamed (.apply name args)
  | function {params : List Ty} {result : Ty} (isSuspend : Bool) (hparams : ∀ t ∈ params, WellNamed t)
      (hresult : WellNamed result) : WellNamed (.function params isSuspend result)
  | param {name : String} (hname : Identifier.isValid name) : WellNamed (.param name)
  | star : WellNamed .star
  | named {name : QualifiedName} (hname : name.IsCut) (h : Primitive.ofFullName? name.full = none) :
      WellNamed (.named name)

namespace TypeRef

theorem wellNamed_classTy {fullName : String} (h : Identifier.isDotted fullName) :
    (classTy fullName).WellNamed := by
  unfold classTy
  split
  · exact .primitive _
  · next hnone =>
      exact .named ⟨fullName, h, rfl⟩ (by rwa [QualifiedName.full_parse_of_isDotted h])

theorem wellNamed_marked {t : Ty} (isNullable : Bool) (h : t.WellNamed) :
    (marked isNullable t).WellNamed := by
  cases isNullable with
  | false => exact h
  | true =>
      cases t with
      | nullable inner => exact h
      | primitive | apply | function | param | named => exact .nullable h

mutual
theorem wellNamed_toTy : ∀ r : TypeRef, r.isWellNamed → r.toTy.WellNamed
  | .ofClass fullName args isNullable, h => by
      rw [isWellNamed, Bool.and_eq_true] at h
      have hargs := wellNamed_toTys args h.2
      rw [toTy]
      apply wellNamed_marked
      split
      · exact wellNamed_classTy h.1
      · next first rest heq => exact .apply ⟨fullName, h.1, rfl⟩ (heq ▸ hargs)
  | .ofParam name isNullable, h => by
      rw [toTy]
      exact wellNamed_marked _ (.param (by rwa [isWellNamed] at h))
  | .ofFunction params result isSuspend isNullable, h => by
      rw [isWellNamed, Bool.and_eq_true] at h
      rw [toTy]
      exact wellNamed_marked _
        (.function _ (wellNamed_toTys params h.1) (wellNamed_toTy result h.2))
  | .star, _ => by rw [toTy]; exact .star
  | .unresolved text, h => by simp [isWellNamed] at h
theorem wellNamed_toTys : ∀ rs : List TypeRef, allWellNamed rs → ∀ t ∈ toTys rs, t.WellNamed
  | [], _ => by simp [toTys]
  | r :: rs, h => by
      rw [allWellNamed, Bool.and_eq_true] at h
      rw [toTys]
      exact List.forall_mem_cons.2 ⟨wellNamed_toTy r h.1, wellNamed_toTys rs h.2⟩
end

end TypeRef

namespace Subject

/-- The type references of a function: bounds, parameters, result. -/
def Function.typeRefs (f : Function) : List TypeRef :=
  f.typeParams.flatMap TypeParam.bounds ++ f.parameters.map Parameter.type ++ [f.result]

def Member.typeRefs : Member → List TypeRef
  | .function f => f.typeRefs
  | .property p => p.getterType.toList ++ p.fieldType.toList

/-- The type references of a subject, those of members without a fake included. -/
def typeRefs (s : Subject) : List TypeRef :=
  s.typeParams.flatMap TypeParam.bounds ++ s.members.flatMap Member.typeRefs

def Member.declaredNames : Member → List String
  | .function f => f.name :: f.parameters.map Parameter.name ++ f.typeParams.map TypeParam.name
  | .property p => [p.name]

def declaredNames (s : Subject) : List String :=
  s.name :: s.typeParams.map TypeParam.name ++ s.members.flatMap Member.declaredNames

/-- Whether the package of a subject is a dotted name, if it has one, and its types are well named. -/
def HasNamedTypes (s : Subject) : Prop :=
  (s.package = "" ∨ Identifier.isDotted s.package) ∧ ∀ r ∈ s.typeRefs, r.isWellNamed

/-- Whether everything in a subject is well named. -/
def WellNamed (s : Subject) : Prop :=
  s.HasNamedTypes ∧ ∀ name ∈ s.declaredNames, Identifier.isValid name

instance (s : Subject) : Decidable s.HasNamedTypes := inferInstanceAs (Decidable (_ ∧ _))

instance (s : Subject) : Decidable s.WellNamed := inferInstanceAs (Decidable (_ ∧ _))

end Subject

/-- Whether everything in a blueprint is well named, and what is derived in it agrees with what it is
    derived from. -/
structure Blueprint.WellNamed (b : Blueprint) : Prop where
  package : b.package = "" ∨ Identifier.isDotted b.package
  names : ∀ name ∈ b.declaredNames, Identifier.isValid name
  types : ∀ t ∈ b.mentionedTypes, t.WellNamed
  id_eq : b.id = b.qualifiedName
  generics_eq : b.generics = .ofLevels (!b.typeParams.isEmpty)
    (b.functions.any fun f => !f.typeParams.isEmpty)

namespace Blueprint.WellNamed

variable {b : Blueprint}

theorem name (h : b.WellNamed) : Identifier.isValid b.name :=
  h.names _ (by simp [declaredNames])

theorem inDotted_qualifiedName (h : b.WellNamed) :
    ∀ c ∈ b.qualifiedName.toList, Identifier.inDotted c :=
  QualifiedName.inDotted_within h.package h.name

end Blueprint.WellNamed

namespace Subject

theorem mem_members_of_fakeableFunctions {s : Subject} {inherited : Inherited} {f : Function}
    (h : (inherited, f) ∈ s.fakeableFunctions) : .function f ∈ s.members := by
  obtain ⟨m, hm, hf⟩ := List.mem_filterMap.1 h
  cases m with
  | property p => simp at hf
  | function g =>
      obtain ⟨i, -, hi⟩ := Option.map_eq_some_iff.1 hf
      cases hi
      exact hm

theorem mem_members_of_fakeableProperties {s : Subject} {inherited : Inherited} {p : Property}
    (h : (inherited, p) ∈ s.fakeableProperties) : .property p ∈ s.members := by
  obtain ⟨m, hm, hp⟩ := List.mem_filterMap.1 h
  cases m with
  | function f => simp at hp
  | property q =>
      obtain ⟨i, -, hi⟩ := Option.map_eq_some_iff.1 hp
      cases hi
      exact hm

theorem exists_of_mem_lowerProperties {declaration : String} {ps : List (Inherited × Property)}
    {lowered : List Blueprint.Property} (h : lowerProperties declaration ps = .ok lowered)
    {property : Blueprint.Property} (hmem : property ∈ lowered) :
    ∃ inherited p, (inherited, p) ∈ ps ∧ p.lower? inherited = some property := by
  induction ps generalizing lowered with
  | nil =>
      rw [lowerProperties, Except.ok.injEq] at h
      simp [← h] at hmem
  | cons entry ps ih =>
      obtain ⟨inherited, p⟩ := entry
      rw [lowerProperties] at h
      cases hp : p.lower? inherited with
      | none => simp [hp] at h
      | some first =>
          cases hrest : lowerProperties declaration ps with
          | error r => simp [hp, hrest] at h
          | ok rest =>
              simp only [hp, hrest, Except.ok.injEq] at h
              rw [← h, List.mem_cons] at hmem
              obtain rfl | hmem := hmem
              · exact ⟨inherited, p, by simp, hp⟩
              · obtain ⟨i, q, hq, hlower⟩ := ih hrest hmem
                exact ⟨i, q, List.mem_cons_of_mem _ hq, hlower⟩

/-- The blueprint of an analysed subject, part by part. -/
theorem blueprint_of_analyze {s : Subject} {analysis : Analysis} (h : s.analyze = .ok analysis) :
    ∃ supertype properties, s.supertype = .ok supertype ∧
      lowerProperties s.qualifiedName s.fakeableProperties = .ok properties ∧
      analysis.blueprint =
        { id := s.qualifiedName
          supertype := supertype
          package := s.package
          name := s.name
          typeParams := s.typeParams.map TypeParam.lower
          functions := s.fakeableFunctions.map fun (inherited, f) => f.lower inherited
          properties := properties
          generics := .ofLevels (!(s.typeParams.map TypeParam.lower).isEmpty)
            ((s.fakeableFunctions.map fun (inherited, f) => f.lower inherited).any
              fun f => !f.typeParams.isEmpty) } := by
  unfold analyze draft at h
  cases hsuper : s.supertype with
  | error r => simp [hsuper] at h
  | ok supertype =>
      cases hprops : lowerProperties s.qualifiedName s.fakeableProperties with
      | error r => simp [hsuper, hprops] at h
      | ok properties =>
          simp only [hsuper, hprops, Except.ok.injEq] at h
          exact ⟨supertype, properties, rfl, rfl, by rw [← h]; rfl⟩

theorem wellNamed_bounds {p : TypeParam} (h : ∀ r ∈ p.bounds, r.isWellNamed) :
    ∀ t ∈ p.lower.bounds, t.WellNamed := by
  intro t ht
  obtain ⟨r, hr, rfl⟩ := List.mem_map.1 ht
  have hr := h r (List.mem_filter.1 hr).1
  unfold TypeParam.boundTy
  split
  · exact .nullable (.primitive _)
  · exact TypeRef.wellNamed_toTy r hr

theorem wellNamed_lower {inherited : Inherited} {f : Function}
    (h : ∀ r ∈ f.typeRefs, r.isWellNamed) :
    ∀ t ∈ (f.lower inherited).mentionedTypes, t.WellNamed := by
  simp only [Function.typeRefs, List.forall_mem_append, List.forall_mem_flatMap,
    List.forall_mem_map] at h
  simp only [Blueprint.Function.mentionedTypes, Function.lower, List.forall_mem_append,
    List.forall_mem_flatMap, List.forall_mem_map]
  refine ⟨⟨fun p hp => wellNamed_bounds (h.1.1 p hp), fun p hp => ?_⟩, ?_⟩
  · exact TypeRef.wellNamed_toTy _ (h.1.2 p hp)
  · simpa using TypeRef.wellNamed_toTy _ (h.2 _ (by simp))

theorem wellNamed_lower? {inherited : Inherited} {p : Property} {lowered : Blueprint.Property}
    (h : ∀ r ∈ (Member.property p).typeRefs, r.isWellNamed)
    (hlower : p.lower? inherited = some lowered) : lowered.type.WellNamed := by
  obtain ⟨r, hr, rfl⟩ := Option.map_eq_some_iff.1 hlower
  refine TypeRef.wellNamed_toTy r (h r ?_)
  unfold Property.type? at hr
  cases hgetter : p.getterType <;> simp_all [Member.typeRefs]

theorem HasNamedTypes.wellNamed_blueprint {s : Subject} {analysis : Analysis}
    (hs : s.HasNamedTypes) (h : s.analyze = .ok analysis)
    (hnames : ∀ name ∈ analysis.blueprint.declaredNames, Identifier.isValid name) :
    analysis.blueprint.WellNamed := by
  obtain ⟨supertype, properties, -, hprops, hb⟩ := blueprint_of_analyze h
  obtain ⟨hpackage, htypes⟩ := hs
  simp only [typeRefs, List.forall_mem_append, List.forall_mem_flatMap] at htypes
  refine ⟨by rwa [hb], hnames, ?_, by rw [hb]; rfl, by rw [hb]⟩
  simp only [hb, Blueprint.mentionedTypes, List.forall_mem_append, List.forall_mem_flatMap,
    List.forall_mem_map]
  refine ⟨⟨fun p hp => wellNamed_bounds (htypes.1 p hp), fun entry hentry => ?_⟩, fun p hp => ?_⟩
  · exact wellNamed_lower (htypes.2 _ (mem_members_of_fakeableFunctions hentry))
  · obtain ⟨inherited, q, hq, hlower⟩ := exists_of_mem_lowerProperties hprops hp
    exact wellNamed_lower? (htypes.2 _ (mem_members_of_fakeableProperties hq)) hlower

theorem declaredNames_of_analyze {s : Subject} {analysis : Analysis}
    (h : s.analyze = .ok analysis) : analysis.blueprint.declaredNames ⊆ s.declaredNames := by
  obtain ⟨supertype, properties, -, hprops, hb⟩ := blueprint_of_analyze h
  have hmember {m : Member} (hm : m ∈ s.members) {name : String} (hname : name ∈ m.declaredNames) :
      name ∈ s.declaredNames := by
    simp only [declaredNames, List.cons_append, List.mem_cons, List.mem_append, List.mem_flatMap]
    exact .inr (.inr ⟨m, hm, hname⟩)
  intro name hname
  simp only [hb, Blueprint.declaredNames, List.cons_append, List.mem_cons, List.mem_append,
    List.mem_flatMap, List.mem_map] at hname
  obtain rfl | (⟨_, ⟨p, hp, rfl⟩, rfl⟩ | ⟨p, hp, rfl⟩) | ⟨_, ⟨entry, hentry, rfl⟩, hname⟩ := hname
  · simp [declaredNames]
  · simp only [declaredNames, List.cons_append, List.mem_cons, List.mem_append, List.mem_map]
    exact .inr (.inl ⟨p, hp, rfl⟩)
  · obtain ⟨inherited, q, hq, hlower⟩ := exists_of_mem_lowerProperties hprops hp
    obtain ⟨r, -, rfl⟩ := Option.map_eq_some_iff.1 hlower
    exact hmember (mem_members_of_fakeableProperties hq) (by simp [Member.declaredNames])
  · refine hmember (mem_members_of_fakeableFunctions hentry) ?_
    simpa [Member.declaredNames, Blueprint.Function.declaredNames, Function.lower,
      Blueprint.Function.typeParamNames, Function.lowerParameter, TypeParam.lower] using hname

theorem WellNamed.blueprint {s : Subject} {analysis : Analysis} (hs : s.WellNamed)
    (h : s.analyze = .ok analysis) : analysis.blueprint.WellNamed :=
  hs.1.wellNamed_blueprint h fun name hname => hs.2 name (declaredNames_of_analyze h hname)

end Subject

namespace FakeFile

theorem isValid_of_generate {options : FileOptions} {b : Blueprint} {file : FakeFile}
    (h : generate options b = .ok file) : ∀ name ∈ b.declaredNames, Identifier.isValid name := by
  have hnone := (generate_eq_ok_iff.1 h).1
  unfold Blueprint.renderError? at hnone
  split at hnone
  · cases hnone
  · next hfind => simpa using hfind

end FakeFile

end KotlinFakes
