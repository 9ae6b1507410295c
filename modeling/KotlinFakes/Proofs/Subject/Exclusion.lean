import KotlinFakes.Pass.Run
import KotlinFakes.Proofs.Subject.Coverage
import KotlinFakes.Signature.Listing
import Mathlib.Logic.Relation

/-!
# Members that make no difference

Members that the compiler made are in no fake, nor are inherited ones that are final or sealed. They also
have no say in what becomes of the others, because only what is written in the body of a declaration takes
the place of something inherited. So a subject can be edited in such members, in its annotations and in the
file that it was found in, and a property can change places with a function: the analysis stays the same,
and with it all that a pass does for the subject.
-/

namespace KotlinFakes.Subject

/-! ## Edits -/

/-- Whether a member is left out of the fake, whatever else the subject has. -/
inductive Member.IsExcluded (m : Member) : Prop where
  | synthetic (horigin : m.origin = .synthetic)
  | final (horigin : m.origin = .inherited) (hmodality : m.modality = .final)
  | sealed (horigin : m.origin = .inherited) (hmodality : m.modality = .sealed)

/-- A change of a subject in what does not concern its fake. -/
inductive Edit : Subject → Subject → Prop where
  | insert (s : Subject) (before after : List Member) {m : Member} (hm : m.IsExcluded) :
    Edit { s with members := before ++ after } { s with members := before ++ m :: after }
  | swap (s : Subject) (before after : List Member) (p : Property) (f : Function) :
    Edit { s with members := before ++ .property p :: .function f :: after }
      { s with members := before ++ .function f :: .property p :: after }
  | annotate (s : Subject) (annotations : List String) : Edit s { s with annotations := annotations }
  | relocate (s : Subject) (sourceFile : Option String) : Edit s { s with sourceFile := sourceFile }

/-- Whether two subjects come from each other by any number of changes, made or undone. -/
abbrev IsEdited : Subject → Subject → Prop := Relation.EqvGen Edit

variable {s t : Subject}

namespace Member.IsExcluded

variable {m : Member}

theorem not_declared (h : m.IsExcluded) : m.origin ≠ .declared := by
  intro hdeclared
  cases h with
  | synthetic horigin => simp [hdeclared] at horigin
  | final horigin => simp [hdeclared] at horigin
  | sealed horigin => simp [hdeclared] at horigin

theorem not_isCovered (h : m.IsExcluded) (s : Subject) : ¬ s.IsCovered m := by
  intro hcovered
  cases h with
  | synthetic horigin => exact hcovered.not_synthetic horigin
  | final _ hmodality => simpa [hmodality] using hcovered.inheritable
  | sealed _ hmodality => simpa [hmodality] using hcovered.inheritable

end Member.IsExcluded

namespace Edit

theorem mem_members_iff (h : Edit s t) {m : Member} (hm : m.origin = .declared) :
    m ∈ t.members ↔ m ∈ s.members := by
  cases h with
  | @insert s before after other hother =>
      have hne : m ≠ other := fun heq => hother.not_declared (heq ▸ hm)
      simp [hne]
  | swap s before after p f =>
      simp only [List.mem_append, List.mem_cons]
      grind
  | annotate => rfl
  | relocate => rfl

theorem isCovered_iff (h : Edit s t) (m : Member) : t.IsCovered m ↔ s.IsCovered m := by
  have hrewritten : (∀ other ∈ t.members, other.origin = .declared → other.key ≠ m.key) ↔
      ∀ other ∈ s.members, other.origin = .declared → other.key ≠ m.key := by
    constructor
    · intro hnone other hother hdeclared
      exact hnone other ((h.mem_members_iff hdeclared).2 hother) hdeclared
    · intro hnone other hother hdeclared
      exact hnone other ((h.mem_members_iff hdeclared).1 hother) hdeclared
  constructor
  · intro hcovered
    exact ⟨hcovered.not_synthetic, hcovered.inheritable, hcovered.not_ofAny,
      fun horigin => hrewritten.1 (hcovered.not_rewritten horigin)⟩
  · intro hcovered
    exact ⟨hcovered.not_synthetic, hcovered.inheritable, hcovered.not_ofAny,
      fun horigin => hrewritten.2 (hcovered.not_rewritten horigin)⟩

theorem filterMap_members {α : Type} {pick : Member → Option α} (h : Edit s t)
    (hexcluded : ∀ m, m.IsExcluded → pick m = none)
    (hkind : (∀ p, pick (.property p) = none) ∨ ∀ f, pick (.function f) = none) :
    t.members.filterMap pick = s.members.filterMap pick := by
  cases h with
  | insert s before after hm =>
      simp [List.filterMap_append, hexcluded _ hm]
  | swap s before after p f =>
      rcases hkind with hproperty | hfunction
      · simp [List.filterMap_append, List.filterMap_cons, hproperty]
      · simp [List.filterMap_append, List.filterMap_cons, hfunction]
  | annotate => rfl
  | relocate => rfl

theorem coveredFunctions_eq (h : Edit s t) : t.coveredFunctions = s.coveredFunctions := by
  unfold coveredFunctions
  simp only [h.isCovered_iff]
  refine h.filterMap_members (fun m hm => ?_) (.inl fun p => rfl)
  cases m with
  | property p => rfl
  | function f => exact if_neg (hm.not_isCovered s)

theorem coveredProperties_eq (h : Edit s t) : t.coveredProperties = s.coveredProperties := by
  unfold coveredProperties
  simp only [h.isCovered_iff]
  refine h.filterMap_members (fun m hm => ?_) (.inr fun f => rfl)
  cases m with
  | property p => exact if_neg (hm.not_isCovered s)
  | function f => rfl

theorem qualifiedName_eq (h : Edit s t) : t.qualifiedName = s.qualifiedName := by
  cases h <;> rfl

theorem draft_eq (h : Edit s t) : t.draft = s.draft := by
  have hfunctions : t.fakeableFunctions = s.fakeableFunctions := by
    rw [fakeableFunctions_eq, fakeableFunctions_eq, h.coveredFunctions_eq]
  have hproperties : t.fakeableProperties = s.fakeableProperties := by
    rw [fakeableProperties_eq, fakeableProperties_eq, h.coveredProperties_eq]
  unfold draft unresolvedBounds
  rw [hfunctions, hproperties]
  cases h <;> rfl

end Edit

/-! ## Properties without a type -/

theorem lowerProperties_eq_error_iff {declaration : String} {ps : List Property} {r : Rejection} :
    lowerProperties declaration (ps.map fun p => (p.modality.replaced, p)) = .error r ↔
      ∃ p, ps.find? (fun p => p.type?.isNone) = some p ∧
        r = .untypedProperty declaration p.name := by
  induction ps with
  | nil => simp [lowerProperties]
  | cons p rest ih =>
      rw [List.map_cons, lowerProperties]
      cases htype : p.type? with
      | none =>
          simp only [Property.lower?, htype, Option.map_none, List.find?_cons, Option.isNone_none]
          simp [eq_comm]
      | some type =>
          simp only [Property.lower?, htype, Option.map_some, List.find?_cons, Option.isNone_some]
          rw [← ih]
          split <;> simp_all

theorem analyze_eq_untypedProperty_iff {declaration name : String} :
    s.analyze = .error (.untypedProperty declaration name) ↔
      (∃ supertype, s.supertype = .ok supertype) ∧ declaration = s.qualifiedName ∧
        ∃ p, s.coveredProperties.find? (fun p => p.type?.isNone) = some p ∧ p.name = name := by
  have hproperties (r : Rejection) :=
    @lowerProperties_eq_error_iff s.qualifiedName s.coveredProperties r
  unfold analyze draft
  rw [fakeableProperties_eq]
  cases hsupertype : s.supertype with
  | error r =>
      -- Without a supertype the analysis fails before any property is looked at.
      have hr : r ≠ .untypedProperty declaration name := by
        rintro rfl
        unfold supertype at hsupertype
        grind
      simp [hr]
  | ok supertype =>
      cases hlowered : lowerProperties s.qualifiedName
          (s.coveredProperties.map fun p => (p.modality.replaced, p)) with
      | error r =>
          obtain ⟨p, hfind, rfl⟩ := (hproperties r).1 hlowered
          simp [hfind, eq_comm]
      | ok properties =>
          have hnone : ∀ p, s.coveredProperties.find? (fun p => p.type?.isNone) ≠ some p := by
            intro p hfind
            have herror := (hproperties _).2 ⟨p, hfind, rfl⟩
            rw [hlowered] at herror
            cases herror
          simp [hnone]

/-! ## Any number of edits -/

namespace IsEdited

/-- What no edit changes is the same for subjects that come from each other by edits. -/
theorem eq_of_forall_edit {α : Type} {view : Subject → α} (hedit : ∀ {s t}, Edit s t → view t = view s)
    (h : IsEdited s t) : view t = view s := by
  induction h with
  | rel s t h => exact hedit h
  | refl s => rfl
  | symm s t _ ih => exact ih.symm
  | trans s t u _ _ hfirst hsecond => exact hsecond.trans hfirst

theorem draft_eq (h : IsEdited s t) : t.draft = s.draft := h.eq_of_forall_edit Edit.draft_eq

theorem analyze_eq (h : IsEdited s t) : t.analyze = s.analyze := by
  unfold analyze
  rw [h.draft_eq]

theorem process_eq (h : IsEdited s t) {m : Type → Type} [Monad m] [FileSystem m]
    (config : Pass.Config) (state : Pass.State) :
    (Pass.process config t state : m (Pass.Outcome × Pass.State)) = Pass.process config s state := by
  have hname : t.qualifiedName = s.qualifiedName := h.eq_of_forall_edit Edit.qualifiedName_eq
  unfold Pass.process Pass.write Pass.fail
  rw [h.analyze_eq, hname]

end IsEdited

/-- Edits change nothing about the analysis of a subject: neither whether it succeeds, nor the blueprint
    and the warnings, nor the reason why there are none. So the signature that is listed is the same, and
    so is all that a pass does, above all the file that it writes. An analysis that fails for want of a
    type still names the first property to be covered that has none. -/
theorem analyze_of_isEdited (h : IsEdited s t) :
    t.analyze = s.analyze ∧
    (∀ options, t.listed options = s.listed options) ∧
    (∀ {m : Type → Type} [Monad m] [FileSystem m] (config : Pass.Config) (state : Pass.State),
      (Pass.process config t state : m (Pass.Outcome × Pass.State)) = Pass.process config s state) ∧
    ∀ declaration name, t.analyze = .error (.untypedProperty declaration name) →
      ∃ before p after, s.coveredProperties = before ++ p :: after ∧
        t.coveredProperties = before ++ p :: after ∧ (∀ q ∈ before, q.type?.isSome) ∧
        p.type? = none ∧ p.name = name := by
  refine ⟨h.analyze_eq, fun options => ?_, fun config state => h.process_eq config state,
    fun declaration name hanalysis => ?_⟩
  · unfold listed
    rw [h.analyze_eq]
  · have hcovered : t.coveredProperties = s.coveredProperties :=
      h.eq_of_forall_edit Edit.coveredProperties_eq
    obtain ⟨-, -, p, hfind, hname⟩ := analyze_eq_untypedProperty_iff.1 hanalysis
    obtain ⟨huntyped, before, after, hsplit, hbefore⟩ := List.find?_eq_some_iff_append.1 hfind
    refine ⟨before, p, after, hcovered ▸ hsplit, hsplit, fun q hq => ?_, ?_, hname⟩
    · simpa using hbefore q hq
    · simpa using huntyped

/-- A property of which nothing is known but its name. -/
def untyped (name : String) (origin : Origin) : Property where
  name := name
  getterType := none
  fieldType := none
  isMutable := false
  modality := .abstract
  origin := origin

/-- The property `door: Int`. -/
def door : Property := { untyped "door" .declared with getterType := some (.ofClass "kotlin.Int" [] false) }

def knock : Function := textFunction "knock" []

/-- A final function of a supertype. -/
def rattle : Function := { textFunction "rattle" [] with modality := .final, origin := .inherited }

/-- An interface with a property, a function and some more members. -/
def house (more : List Member) : Subject :=
  ⟨"app", "House", .interface, [], .property door :: .function knock :: more, ["Fake"], 0, none⟩

/-- The same interface without its annotation, with the property behind the function and with two members
    around them that are excluded. -/
def haunted (more : List Member) : Subject :=
  ⟨"app", "House", .interface, [],
    .property (untyped "shadow" .synthetic) :: .function knock :: .property door :: .function rattle :: more,
    [], 0, some "House.kt"⟩

theorem isEdited_haunted (more : List Member) : IsEdited (house more) (haunted more) := by
  have hswap := Edit.swap (house more) [] more door knock
  have hshadow := Edit.insert (house more) [] (.function knock :: .property door :: more)
    (.synthetic rfl : Member.IsExcluded (.property (untyped "shadow" .synthetic)))
  have hrattle := Edit.insert (house more)
    [.property (untyped "shadow" .synthetic), .function knock, .property door] more
    (.final rfl rfl : Member.IsExcluded (.function rattle))
  have hannotate := Edit.annotate { haunted more with annotations := ["Fake"], sourceFile := none } []
  have hrelocate := Edit.relocate { haunted more with sourceFile := none } (some "House.kt")
  refine .trans _ _ _ (.rel _ _ hswap) (.trans _ _ _ (.rel _ _ hshadow) ?_)
  exact .trans _ _ _ (.rel _ _ hrattle) (.trans _ _ _ (.rel _ _ hannotate) (.rel _ _ hrelocate))

/-- A member made by the compiler may lack a type, and the property that is to blame for a failure is the
    same one after the edits. -/
theorem analyze_of_isEdited_house :
    (∃ analysis, (house []).analyze = .ok analysis ∧ IsEdited (house []) (haunted []) ∧
      (haunted []).analyze = .ok analysis) ∧
    IsEdited (house [.property (untyped "ghost" .declared)])
      (haunted [.property (untyped "ghost" .declared)]) ∧
    (haunted [.property (untyped "ghost" .declared)]).analyze =
      .error (.untypedProperty "app.House" "ghost") ∧
    ∃ before p after, (house [.property (untyped "ghost" .declared)]).coveredProperties =
        before ++ p :: after ∧
      (∀ q ∈ before, q.type?.isSome) ∧ p.type? = none ∧ p.name = "ghost" := by
  have hok : (house []).analyze = .ok _ := rfl
  obtain ⟨hsame, -⟩ := analyze_of_isEdited (isEdited_haunted [])
  have hghost := isEdited_haunted [.property (untyped "ghost" .declared)]
  have hfails : (haunted [.property (untyped "ghost" .declared)]).analyze =
      .error (.untypedProperty "app.House" "ghost") := rfl
  obtain ⟨-, -, -, hfirst⟩ := analyze_of_isEdited hghost
  obtain ⟨before, p, after, hcovered, -, hbefore, huntyped, hname⟩ := hfirst _ _ hfails
  exact ⟨⟨_, hok, isEdited_haunted [], hsame.trans hok⟩, hghost, hfails, before, p, after, hcovered,
    hbefore, huntyped, hname⟩

end KotlinFakes.Subject
