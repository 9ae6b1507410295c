import KotlinFakes.Subject.Draft
import Mathlib.Data.List.Forall2

/-!
# Members that a fake has to cover

Which members of a subject have to be overridden, stated without regard to how a draft finds them, and
what a draft says about each of them. A draft covers them all unless one of them is an overload of a
function of `Any`: it is taken for that function, because it has its name.
-/

namespace KotlinFakes

/-- What an override of a member with some modality replaces. -/
def Modality.replaced : Modality → Inherited
  | .abstract => .abstract
  | .overridable | .final | .sealed => .implemented

namespace Subject

/-! ## Members to cover -/

/-- The functions of `Any`, with the number of their parameters. -/
def anyFunctions : List (String × Nat) := [("equals", 1), ("hashCode", 0), ("toString", 0)]

/-- Whether a member is a function of `Any`, and not an overload of one. -/
def Member.isOfAny : Member → Bool
  | .function f => anyFunctions.contains (f.name, f.parameters.length)
  | .property _ => false

/-- Whether a fake has to override a member of the subject. -/
structure IsCovered (s : Subject) (m : Member) : Prop where
  not_synthetic : m.origin ≠ .synthetic
  inheritable : m.modality = .abstract ∨ m.modality = .overridable
  not_ofAny : m.isOfAny = false
  not_rewritten : m.origin = .inherited →
    ∀ other ∈ s.members, other.origin = .declared → other.key ≠ m.key

instance (s : Subject) (m : Member) : Decidable (s.IsCovered m) :=
  decidable_of_iff
    (m.origin ≠ .synthetic ∧ (m.modality = .abstract ∨ m.modality = .overridable) ∧
      m.isOfAny = false ∧
      (m.origin = .inherited → ∀ other ∈ s.members, other.origin = .declared → other.key ≠ m.key))
    ⟨fun ⟨h₁, h₂, h₃, h₄⟩ => ⟨h₁, h₂, h₃, h₄⟩,
      fun h => ⟨h.not_synthetic, h.inheritable, h.not_ofAny, h.not_rewritten⟩⟩

/-- The functions that a fake has to override, in order. -/
def coveredFunctions (s : Subject) : List Function :=
  s.members.filterMap fun
    | .function f => if s.IsCovered (.function f) then some f else none
    | .property _ => none

/-- The properties that a fake has to override, in order. -/
def coveredProperties (s : Subject) : List Property :=
  s.members.filterMap fun
    | .property p => if s.IsCovered (.property p) then some p else none
    | .function _ => none

/-! ## What is said about a member -/

/-- Whether a parameter of a draft describes a parameter of a subject. -/
structure Parameter.Describes (p : Parameter) (q : Blueprint.Parameter) : Prop where
  name : q.name = p.name
  type : q.type = p.type.toTy
  isVararg : q.isVararg = p.isVararg
  hasDefault : q.hasDefault = p.hasDefault

/-- Whether a function of a draft describes a function of a subject. -/
structure Function.Describes (f : Function) (g : Blueprint.Function) : Prop where
  name : g.name = f.name
  typeParams : g.typeParams = f.typeParams.map TypeParam.lower
  parameters : List.Forall₂ Parameter.Describes f.parameters g.parameters
  result : g.result = f.result.toTy
  isSuspend : g.isSuspend = f.isSuspend
  isInline : g.isInline = f.isInline
  inherited : g.inherited = f.modality.replaced

/-- Whether a property of a draft describes a property of a subject. -/
structure Property.Describes (p : Property) (q : Blueprint.Property) : Prop where
  name : q.name = p.name
  type : ∃ type, p.type? = some type ∧ q.type = type.toTy ∧ q.isNullable = type.toTy.isNullable
  isMutable : q.isMutable = p.isMutable
  inherited : q.inherited = p.modality.replaced

theorem Function.describes_lower (f : Function) : f.Describes (f.lower f.modality.replaced) where
  name := rfl
  typeParams := rfl
  parameters := by
    rw [Function.lower, List.forall₂_map_right_iff]
    exact List.forall₂_same.2 fun p _ => ⟨rfl, rfl, rfl, rfl⟩
  result := rfl
  isSuspend := rfl
  isInline := rfl
  inherited := rfl

theorem Property.describes_of_lower? {p : Property} {q : Blueprint.Property}
    (h : p.lower? p.modality.replaced = some q) : p.Describes q := by
  obtain ⟨type, htype, rfl⟩ := Option.map_eq_some_iff.1 h
  exact ⟨rfl, ⟨type, htype, rfl, rfl⟩, rfl, rfl⟩

/-! ## Members that are found -/

theorem Member.isUniversal_of_isOfAny {m : Member} (h : m.isOfAny) : m.isUniversal := by
  cases m with
  | property p => cases h
  | function f =>
      simp only [isOfAny, anyFunctions, List.contains_iff_mem, List.mem_cons, Prod.mk.injEq,
        List.not_mem_nil, or_false] at h
      obtain ⟨h, -⟩ | ⟨h, -⟩ | ⟨h, -⟩ := h <;> simp [isUniversal, universal, h]

theorem mem_declaredKeys {s : Subject} {key : Member.Key} :
    key ∈ s.declaredKeys ↔ ∃ other ∈ s.members, other.origin = .declared ∧ other.key = key := by
  simp [declaredKeys, and_assoc]

/-- A member is overridden if it has to be and has not the name of a function of `Any`. -/
theorem overrides?_eq (s : Subject) (m : Member) :
    s.overrides? m =
      if s.IsCovered m ∧ m.isUniversal = false then some m.modality.replaced else none := by
  have hcovered : s.IsCovered m ∧ m.isUniversal = false ↔
      m.origin ≠ .synthetic ∧ m.isUniversal = false ∧
        (m.modality = .abstract ∨ m.modality = .overridable) ∧
        ¬ (m.origin = .inherited ∧ m.key ∈ s.declaredKeys) := by
    constructor
    · rintro ⟨h, huniversal⟩
      refine ⟨h.not_synthetic, huniversal, h.inheritable, fun ⟨horigin, hkey⟩ => ?_⟩
      obtain ⟨other, hother, hdeclared, hsame⟩ := mem_declaredKeys.1 hkey
      exact h.not_rewritten horigin other hother hdeclared hsame
    · rintro ⟨hsynthetic, huniversal, hmodality, hkey⟩
      refine ⟨⟨hsynthetic, hmodality, ?_, fun horigin other hother hdeclared hsame => ?_⟩, huniversal⟩
      · exact Bool.eq_false_iff.2 fun hany =>
          Bool.eq_false_iff.1 huniversal (Member.isUniversal_of_isOfAny hany)
      · exact hkey ⟨horigin, mem_declaredKeys.2 ⟨other, hother, hdeclared, hsame⟩⟩
  rw [if_congr hcovered rfl rfl, overrides?, Member.inherited?]
  by_cases hsynthetic : m.origin = .synthetic
  · simp [hsynthetic]
  · cases huniversal : m.isUniversal with
    | true => simp
    | false =>
        by_cases hkey : m.origin = .inherited ∧ m.key ∈ s.declaredKeys
        · cases hmodality : m.modality <;> simp [hkey, Option.filter]
        · cases hmodality : m.modality <;> simp [hsynthetic, hkey, Option.filter, Modality.replaced]

theorem fakeableFunctions_eq (s : Subject) :
    s.fakeableFunctions =
      (s.coveredFunctions.filter fun f => !Member.isUniversal (.function f)).map
        fun f => (f.modality.replaced, f) := by
  rw [fakeableFunctions, coveredFunctions, List.filter_filterMap, List.map_filterMap]
  refine List.filterMap_congr fun m _ => ?_
  cases m with
  | property p => rfl
  | function f =>
      dsimp only
      rw [overrides?_eq]
      by_cases hcovered : s.IsCovered (.function f) <;>
        cases huniversal : Member.isUniversal (.function f) <;>
        simp [hcovered, huniversal, Member.modality, Option.filter]

theorem fakeableProperties_eq (s : Subject) :
    s.fakeableProperties = s.coveredProperties.map fun p => (p.modality.replaced, p) := by
  rw [fakeableProperties, coveredProperties, List.map_filterMap]
  refine List.filterMap_congr fun m _ => ?_
  cases m with
  | function f => rfl
  | property p =>
      dsimp only
      rw [overrides?_eq]
      by_cases hcovered : s.IsCovered (.property p) <;>
        simp [hcovered, Member.modality, Member.isUniversal]

theorem describes_of_lowerProperties {declaration : String} {ps : List Property}
    {lowered : List Blueprint.Property}
    (h : lowerProperties declaration (ps.map fun p => (p.modality.replaced, p)) = .ok lowered) :
    List.Forall₂ Property.Describes ps lowered := by
  induction ps generalizing lowered with
  | nil =>
      obtain rfl := Except.ok.inj h
      exact .nil
  | cons p rest ih =>
      rw [List.map_cons, lowerProperties] at h
      cases hp : p.lower? p.modality.replaced with
      | none => simp [hp] at h
      | some q =>
          cases hrest : lowerProperties declaration (rest.map fun p => (p.modality.replaced, p)) with
          | error r => simp [hp, hrest] at h
          | ok properties =>
              simp only [hp, hrest, Except.ok.injEq] at h
              exact h ▸ .cons (Property.describes_of_lower? hp) (ih hrest)

theorem mem_coveredFunctions {s : Subject} {f : Function} :
    f ∈ s.coveredFunctions ↔ .function f ∈ s.members ∧ s.IsCovered (.function f) := by
  rw [coveredFunctions, List.mem_filterMap]
  constructor
  · rintro ⟨m, hm, hf⟩
    cases m with
    | property p => cases hf
    | function g =>
        dsimp only at hf
        split at hf
        · next hcovered =>
            obtain rfl := Option.some.inj hf
            exact ⟨hm, hcovered⟩
        · cases hf
  · rintro ⟨hm, hcovered⟩
    exact ⟨_, hm, if_pos hcovered⟩

theorem parts_of_draft {s : Subject} {d : Draft} (h : s.draft = .ok d) :
    lowerProperties s.qualifiedName s.fakeableProperties = .ok d.blueprint.properties ∧
      d.blueprint.functions = s.fakeableFunctions.map fun (inherited, f) => f.lower inherited := by
  unfold draft at h
  cases hsuper : s.supertype with
  | error r => simp [hsuper] at h
  | ok supertype =>
      cases hproperties : lowerProperties s.qualifiedName s.fakeableProperties with
      | error r => simp [hsuper, hproperties] at h
      | ok properties =>
          simp only [hsuper, hproperties, Except.ok.injEq] at h
          subst h
          exact ⟨rfl, rfl⟩

/-- A draft describes in order all properties and functions that have to be covered, and nothing else,
    but leaves out the functions that have the name of a function of `Any`. It is complete if and only
    if there are none. -/
theorem draft_covers_iff {s : Subject} {d : Draft} (h : s.draft = .ok d) :
    List.Forall₂ Property.Describes s.coveredProperties d.blueprint.properties ∧
    List.Forall₂ Function.Describes
      (s.coveredFunctions.filter fun f => !Member.isUniversal (.function f)) d.blueprint.functions ∧
    (List.Forall₂ Function.Describes s.coveredFunctions d.blueprint.functions ↔
      ∀ f, .function f ∈ s.members → s.IsCovered (.function f) → f.name ∉ Member.universal) := by
  obtain ⟨hproperties, hfunctions⟩ := parts_of_draft h
  rw [fakeableProperties_eq] at hproperties
  rw [fakeableFunctions_eq, List.map_map] at hfunctions
  have hdescribed : List.Forall₂ Function.Describes
      (s.coveredFunctions.filter fun f => !Member.isUniversal (.function f))
      d.blueprint.functions := by
    rw [hfunctions, List.forall₂_map_right_iff]
    exact List.forall₂_same.2 fun f _ => f.describes_lower
  refine ⟨describes_of_lowerProperties hproperties, hdescribed, ?_⟩
  have hall : (∀ f, .function f ∈ s.members → s.IsCovered (.function f) → f.name ∉ Member.universal) ↔
      ∀ f ∈ s.coveredFunctions, !Member.isUniversal (.function f) := by
    simp [mem_coveredFunctions, Member.isUniversal]
  rw [hall]
  constructor
  · -- What is left out cannot be made up for: there are too few functions.
    intro hcomplete
    have hlength := hcomplete.length_eq.trans hdescribed.length_eq.symm
    exact List.length_filter_eq_length_iff.1 hlength.symm
  · intro hnone
    rwa [List.filter_eq_self.2 hnone] at hdescribed

/-- A function of a tree that has its text as result. -/
def textFunction (name : String) (parameters : List Parameter) : Function where
  name := name
  typeParams := []
  parameters := parameters
  result := .ofClass "kotlin.String" [] false
  isSuspend := false
  isInline := false
  modality := .abstract
  origin := .declared

def indent : Parameter := ⟨"indent", .ofClass "kotlin.Int" [] false, false, false⟩

/-- An interface with some functions. -/
def node (functions : List Function) : Subject :=
  ⟨"app", "Node", .interface, [], functions.map .function, ["Fake"], 0, none⟩

/-- A function with a name of its own is covered, beside one of `Any`. -/
theorem draft_covers_iff_node :
    let s := node [textFunction "toString" [], textFunction "render" [indent]]
    ∃ d, s.draft = .ok d ∧ d.blueprint.functions.map (·.name) = ["render"] ∧
      List.Forall₂ Function.Describes s.coveredFunctions d.blueprint.functions := by
  intro s
  refine ⟨_, rfl, rfl, (draft_covers_iff rfl).2.2.2 fun f hf hcovered => ?_⟩
  obtain rfl | rfl : f = textFunction "toString" [] ∨ f = textFunction "render" [indent] := by
    simpa [s, node] using hf
  · exact absurd hcovered.not_ofAny (by decide)
  · decide

/-- An abstract overload of `toString` has to be covered, and is left out. -/
theorem exists_draft_uncovered :
    let f := textFunction "toString" [indent]
    (node [f]).IsCovered (.function f) ∧ .function f ∈ (node [f]).members ∧
      ∃ d, (node [f]).draft = .ok d ∧ d.blueprint.functions = [] ∧ d.blueprint.properties = [] :=
  ⟨by decide, by simp [node], _, rfl, rfl, rfl⟩

end Subject

end KotlinFakes
