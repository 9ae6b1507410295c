import KotlinFakes.Proofs.Manifest.Sites

/-!
# Resolving a manifest

A manifest has subjects just if each of its type texts is right in its own scope. They are the declarations
with types in the place of texts, and what a member becomes depends on nothing but the member and the scope
of its declaration. Otherwise the first wrong text is the error.
-/

namespace KotlinFakes.Manifest

section Parts

variable (typeOf : TypeText.Scope → String → TypeRef) (declaration : String) (scope : TypeText.Scope)

theorem sitesAt_append (texts texts' : List String) :
    sitesAt declaration scope (texts ++ texts') =
      sitesAt declaration scope texts ++ sitesAt declaration scope texts' := List.map_append

theorem Reads.mapM_text {α β : Type} {f : α → Except ManifestError β} {value : α → β} {text : α → String}
    (h : ∀ a, Reads typeOf [⟨declaration, scope, text a⟩] (f a) (value a)) (l : List α) :
    Reads typeOf (sitesAt declaration scope (l.map text)) (l.mapM f) (l.map value) := by
  have hall := Reads.mapM h l
  rwa [← List.map_eq_flatMap, ← Function.comp_def, ← List.map_map] at hall

theorem TypeParam.reads (p : TypeParam) :
    Reads typeOf (sitesAt declaration scope p.bounds) (p.resolve declaration scope)
      (p.withTypes (typeOf scope)) := by
  have hbounds := Reads.mapM_text typeOf declaration scope (Reads.type declaration scope) p.bounds
  rw [List.map_id'] at hbounds
  exact hbounds.map

theorem reads_typeParams (ps : List TypeParam) :
    Reads typeOf (sitesAt declaration scope (ps.flatMap TypeParam.bounds))
      (ps.mapM (TypeParam.resolve declaration scope))
      (ps.map (TypeParam.withTypes (typeOf scope))) := by
  rw [sitesAt, List.map_flatMap]
  exact Reads.mapM (TypeParam.reads typeOf declaration scope) ps

theorem Parameter.reads (p : Parameter) :
    Reads typeOf [⟨declaration, scope, p.type⟩] (p.resolve declaration scope)
      (p.withTypes (typeOf scope)) :=
  (Reads.type declaration scope p.type).map

theorem Function.reads (f : Function) :
    Reads typeOf (sitesAt declaration (f.scope scope) f.texts) (f.resolve declaration scope)
      (f.withTypes (typeOf (f.scope scope))) := by
  have hparameters := Reads.mapM_text typeOf declaration (f.scope scope)
    (Parameter.reads typeOf declaration (f.scope scope)) f.parameters
  have hbounds := reads_typeParams typeOf declaration (f.scope scope) f.typeParams
  have hresult : Reads typeOf _ _ _ := Reads.type declaration (f.scope scope) f.result
  rw [texts, sitesAt_append, sitesAt_append]
  exact hparameters.bind (hbounds.bind hresult.map)

theorem reads_optional (text? : Option String) :
    Reads typeOf (sitesAt declaration scope text?.toList) (resolveType? declaration scope text?)
      (text?.map (typeOf scope)) := by
  cases text? with
  | none => exact .pure none
  | some text => exact (Reads.type declaration scope text).map

theorem Property.reads (p : Property) :
    Reads typeOf (sitesAt declaration scope p.texts) (p.resolve declaration scope)
      (p.withTypes (typeOf scope)) := by
  have hgetter := reads_optional typeOf declaration scope p.getterType
  have hfield := reads_optional typeOf declaration scope p.fieldType
  rw [texts, sitesAt_append]
  exact hgetter.bind hfield.map

theorem Member.reads (member : Member) :
    Reads typeOf (sitesAt declaration (scope.withTypeParams member.ownTypeParams) member.texts)
      (member.resolve declaration scope)
      (member.withTypes (typeOf (scope.withTypeParams member.ownTypeParams))) := by
  cases member with
  | function f => exact (f.reads typeOf declaration scope).map
  | property p =>
      have hscope : scope.withTypeParams [] = scope := by
        rw [TypeText.Scope.withTypeParams, List.append_nil]
      rw [ownTypeParams, hscope]
      exact (p.reads typeOf declaration scope).map

theorem Declaration.reads (imports : List String) (d : Declaration) :
    Reads typeOf (d.sites imports) (d.resolve imports) (d.withTypes typeOf imports) := by
  have hscope : d.scopeWith imports [] = d.scope imports := by
    rw [Declaration.scope, scopeWith, List.append_nil]
  have hbounds := reads_typeParams typeOf d.qualifiedName (d.scope imports) d.typeParams
  have hmembers := Reads.mapM (Member.reads typeOf d.qualifiedName (d.scope imports)) d.members
  rw [sites, withTypes, hscope]
  exact hbounds.bind hmembers.map

end Parts

/-- A manifest reads its type texts, one declaration after the other. -/
theorem reads (typeOf : TypeText.Scope → String → TypeRef) (m : Manifest) :
    Reads typeOf m.sites m.resolve (m.withTypes typeOf) :=
  Reads.mapM (Declaration.reads typeOf m.imports) m.declarations

/-! ## What comes of a manifest -/

/-- The type that a text denotes in a scope, if it is right. -/
def typeOrStar (scope : TypeText.Scope) (text : String) : TypeRef :=
  match TypeText.parse scope text with
  | .ok t => t
  | .error _ => .star

theorem Site.IsRight.denotes {site : Site} (h : site.IsRight) : site.Denotes typeOrStar := by
  obtain ⟨t, ht⟩ := h
  rw [Denotes, typeOrStar, ht]

theorem all_isRight_or_exists_first (sites : List Site) :
    (∀ site ∈ sites, site.IsRight) ∨ ∃ before site after cause, sites = before ++ site :: after ∧
      (∀ earlier ∈ before, earlier.IsRight) ∧ TypeText.parse site.scope site.text = .error cause := by
  induction sites with
  | nil => exact .inl fun _ h => absurd h List.not_mem_nil
  | cons site rest ih =>
      cases hparse : TypeText.parse site.scope site.text with
      | error cause =>
          exact .inr ⟨[], site, rest, cause, rfl, fun _ h => absurd h List.not_mem_nil, hparse⟩
      | ok t =>
          obtain hall | ⟨before, wrong, after, cause, rfl, hbefore, hcause⟩ := ih
          · exact .inl (List.forall_mem_cons.2 ⟨⟨t, hparse⟩, hall⟩)
          · exact .inr ⟨site :: before, wrong, after, cause, rfl,
              List.forall_mem_cons.2 ⟨⟨t, hparse⟩, hbefore⟩, hcause⟩

theorem resolve_of_right {m : Manifest} (h : ∀ site ∈ m.sites, site.IsRight) :
    m.resolve = .ok (m.withTypes typeOrStar) :=
  (m.reads typeOrStar).ok fun site hsite => (h site hsite).denotes

theorem resolve_of_wrong {m : Manifest} {before after : List Site} {site : Site}
    {cause : TypeText.Error} (hsites : m.sites = before ++ site :: after)
    (hbefore : ∀ earlier ∈ before, earlier.IsRight)
    (hcause : TypeText.parse site.scope site.text = .error cause) :
    m.resolve = .error (.badType site.declaration site.text cause) :=
  (m.reads typeOrStar).error hsites (fun earlier h => (hbefore earlier h).denotes) hcause

theorem resolve_eq_ok_iff {m : Manifest} {ss : List Subject} :
    m.resolve = .ok ss ↔ (∀ site ∈ m.sites, site.IsRight) ∧ ss = m.withTypes typeOrStar := by
  constructor
  · intro h
    obtain hall | ⟨before, site, after, cause, hsites, hbefore, hcause⟩ :=
      all_isRight_or_exists_first m.sites
    · rw [resolve_of_right hall] at h
      exact ⟨hall, (Except.ok.inj h).symm⟩
    · rw [resolve_of_wrong hsites hbefore hcause] at h
      cases h
  · rintro ⟨hall, rfl⟩
    exact resolve_of_right hall

theorem resolve_eq_error_iff {m : Manifest} {e : ManifestError} :
    m.resolve = .error e ↔ ∃ before site after cause, m.sites = before ++ site :: after ∧
      (∀ earlier ∈ before, earlier.IsRight) ∧
      TypeText.parse site.scope site.text = .error cause ∧
      e = .badType site.declaration site.text cause := by
  constructor
  · intro h
    obtain hall | ⟨before, site, after, cause, hsites, hbefore, hcause⟩ :=
      all_isRight_or_exists_first m.sites
    · rw [resolve_of_right hall] at h
      cases h
    · rw [resolve_of_wrong hsites hbefore hcause] at h
      exact ⟨before, site, after, cause, hsites, hbefore, hcause, (Except.error.inj h).symm⟩
  · rintro ⟨before, site, after, cause, hsites, hbefore, hcause, rfl⟩
    exact resolve_of_wrong hsites hbefore hcause

/-! ## What a part of a declaration depends on -/

theorem eq_of_mem_zip_map {α β : Type} {f : α → β} {l : List α} {a : α} {b : β}
    (h : (a, b) ∈ l.zip (l.map f)) : b = f a := by
  induction l with
  | nil => cases h
  | cons c rest ih =>
      obtain heq | hrest := List.mem_cons.1 h
      · obtain ⟨rfl, rfl⟩ := Prod.mk.inj heq
        rfl
      · exact ih hrest

/-- Whether the parts of two declarations become the same wherever they are the same. -/
structure IsAlike (d d' : Declaration) (s s' : Subject) : Prop where
  typeParam : ∀ {p r r'}, (p, r) ∈ d.typeParams.zip s.typeParams →
    (p, r') ∈ d'.typeParams.zip s'.typeParams → r' = r
  member : ∀ {member r r'}, (member, r) ∈ d.members.zip s.members →
    (member, r') ∈ d'.members.zip s'.members → r' = r

theorem isAlike_of_resolve {m m' : Manifest} {ss ss' : List Subject} (h : m.resolve = .ok ss)
    (h' : m'.resolve = .ok ss') {d d' : Declaration} {s s' : Subject}
    (hd : (d, s) ∈ m.declarations.zip ss) (hd' : (d', s') ∈ m'.declarations.zip ss')
    (hscope : d'.scope m'.imports = d.scope m.imports) : IsAlike d d' s s' := by
  obtain rfl := (resolve_eq_ok_iff.1 h).2
  obtain rfl := (resolve_eq_ok_iff.1 h').2
  obtain rfl := eq_of_mem_zip_map hd
  obtain rfl := eq_of_mem_zip_map hd'
  have hwith (own : List String) : d'.scopeWith m'.imports own = d.scopeWith m.imports own :=
    congrArg (TypeText.Scope.withTypeParams · own) hscope
  constructor
  · intro p r r' hr hr'
    rw [eq_of_mem_zip_map hr, eq_of_mem_zip_map hr', hwith]
  · intro member r r' hr hr'
    rw [eq_of_mem_zip_map hr, eq_of_mem_zip_map hr', hwith]

/-- A manifest that is decoded has subjects just if each of its type texts is right in its scope. The subjects
    are then the declarations with the type of each text in its place, and the parts of a declaration become
    the same in any other manifest in which the declaration has the same scope, whatever other members and
    declarations there are. Otherwise the error is that of the first text that is wrong. -/
theorem subjects_of_decoded {text : String} {m : Manifest} (h : ofText? text = some m) :
    ((∃ ss, subjects text = .ok ss) ↔ ∀ site ∈ m.sites, site.IsRight) ∧
    (∀ typeOf, (∀ site ∈ m.sites, site.Denotes typeOf) →
      subjects text = .ok (m.withTypes typeOf)) ∧
    (∀ (ss ss' : List Subject) (m' : Manifest), subjects text = .ok ss → m'.resolve = .ok ss' →
      ∀ (d d' : Declaration) (s s' : Subject), (d, s) ∈ m.declarations.zip ss →
        (d', s') ∈ m'.declarations.zip ss' → d'.scope m'.imports = d.scope m.imports →
        IsAlike d d' s s') ∧
    ∀ e, subjects text = .error e ↔ ∃ before site after cause, m.sites = before ++ site :: after ∧
      (∀ earlier ∈ before, earlier.IsRight) ∧
      TypeText.parse site.scope site.text = .error cause ∧
      e = .badType site.declaration site.text cause := by
  have hsubjects : subjects text = m.resolve := by rw [subjects, h]
  rw [hsubjects]
  refine ⟨⟨fun ⟨ss, hss⟩ => (resolve_eq_ok_iff.1 hss).1, fun hall => ⟨_, resolve_of_right hall⟩⟩,
    fun typeOf hdenotes => (m.reads typeOf).ok hdenotes, ?_, fun e => resolve_eq_error_iff⟩
  intro ss ss' m' hss hss' d d' s s' hd hd' hscope
  exact isAlike_of_resolve hss hss' hd hd' hscope

/-- A function of the type parameters that returns a type. -/
def producer (name : String) (typeParams : List TypeParam) (result : String) : Function where
  name := name
  typeParams := typeParams
  parameters := []
  result := result
  isSuspend := false
  isInline := false
  modality := .abstract
  origin := .declared

/-- An interface with a function that returns its own type parameter, and another one after it. -/
def mapper (result : String) : Manifest where
  imports := []
  declarations := [{
    package := "p"
    name := "Mapper"
    shape := .interface
    annotations := []
    imports := []
    typeParams := []
    requiredArguments := 0
    sourceFile := none
    members := [.function (producer "a" [⟨"R", [], false⟩] "R"), .function (producer "b" [] result)] }]

def mapperText (result : String) : String :=
  r#"[[], [["p", "Mapper", "interface", [], [], [], 0, null, "# ++
    r#"[["function", "a", [["R"]], [], "R"], ["function", "b", [], [], ""# ++ result ++ r#""]]]]]"#

/-- What the type texts of the mapper denote. -/
def mapperType (scope : TypeText.Scope) (text : String) : TypeRef :=
  if scope.isTypeParam text then .ofParam text false else .ofClass ("p." ++ text) [] false

/-- The type parameter of the first function is a class for the second, and a wrong type of the second is the
    error. -/
theorem subjects_of_decoded_mapper :
    ofText? (mapperText "R") = some (mapper "R") ∧ ofText? (mapperText "R<") = some (mapper "R<") ∧
    subjects (mapperText "R") = .ok ((mapper "R").withTypes mapperType) ∧
    subjects (mapperText "R<") = .error (.badType "p.Mapper" "R<" ⟨.missingName, 2⟩) := by
  have hright : ofText? (mapperText "R") = some (mapper "R") := by decide +kernel
  have hwrong : ofText? (mapperText "R<") = some (mapper "R<") := by decide +kernel
  have hown : TypeText.parse ⟨"p", [], ["R"]⟩ "R" = .ok (.ofParam "R" false) := by
    with_unfolding_all rfl
  have hclass : TypeText.parse ⟨"p", [], []⟩ "R" = .ok (.ofClass "p.R" [] false) := by
    with_unfolding_all rfl
  have hopen : TypeText.parse ⟨"p", [], []⟩ "R<" = .error ⟨.missingName, 2⟩ := by
    with_unfolding_all rfl
  refine ⟨hright, hwrong, (subjects_of_decoded hright).2.1 mapperType ?_, ?_⟩
  · exact List.forall_mem_cons.2 ⟨hown, List.forall_mem_singleton.2 hclass⟩
  · refine ((subjects_of_decoded hwrong).2.2.2 _).2
      ⟨[⟨"p.Mapper", ⟨"p", [], ["R"]⟩, "R"⟩], ⟨"p.Mapper", ⟨"p", [], []⟩, "R<"⟩, [], _, rfl, ?_,
        hopen, rfl⟩
    exact List.forall_mem_singleton.2 ⟨_, hown⟩

end KotlinFakes.Manifest
