import KotlinFakes.Manifest.Resolve

/-!
# Type texts where they stand

A manifest is a sequence of type texts, each in the scope of the place where it stands, with data around them
that is kept. What comes of a computation that reads some of them in order is told by these texts alone: the
value with every text replaced by its type, or the error of the first text that is wrong.
-/

namespace KotlinFakes.Manifest

/-! ## Sites -/

/-- A type text with the name of its declaration and the scope in which it stands. -/
structure Site where
  declaration : String
  scope : TypeText.Scope
  text : String
  deriving Repr, DecidableEq

/-- Whether the text is that of a type. -/
def Site.IsRight (site : Site) : Prop := ∃ t, TypeText.parse site.scope site.text = .ok t

/-- Type texts that stand together. -/
def sitesAt (declaration : String) (scope : TypeText.Scope) (texts : List String) : List Site :=
  texts.map (Site.mk declaration scope)

/-- The type texts of a function: those of its parameters, its own bounds and its result. -/
def Function.texts (f : Function) : List String :=
  f.parameters.map Parameter.type ++ (f.typeParams.flatMap TypeParam.bounds ++ [f.result])

/-- The type texts of a property: those of its getter and of its field, if it has them. -/
def Property.texts (p : Property) : List String := p.getterType.toList ++ p.fieldType.toList

namespace Member

def texts : Member → List String
  | .function f => f.texts
  | .property p => p.texts

/-- The type parameters that only this member sees. -/
def ownTypeParams : Member → List String
  | .function f => f.typeParams.map TypeParam.name
  | .property _ => []

end Member

namespace Declaration

/-- The scope of a part of the declaration that sees some type parameters besides those of the declaration:
    the package, the imports of the declaration before those of the manifest, and the type parameters. -/
def scopeWith (imports : List String) (d : Declaration) (own : List String) : TypeText.Scope :=
  ⟨d.package, d.imports ++ imports, d.typeParams.map TypeParam.name ++ own⟩

/-- The type texts of the declaration: those of its bounds before those of its members. -/
def sites (imports : List String) (d : Declaration) : List Site :=
  sitesAt d.qualifiedName (d.scopeWith imports []) (d.typeParams.flatMap TypeParam.bounds) ++
    d.members.flatMap fun member =>
      sitesAt d.qualifiedName (d.scopeWith imports member.ownTypeParams) member.texts

end Declaration

/-- The type texts of the manifest, one declaration after the other. -/
def sites (m : Manifest) : List Site := m.declarations.flatMap (Declaration.sites m.imports)

/-! ## Types in the place of texts -/

section Types

variable (typeOf : String → TypeRef)

def TypeParam.withTypes (p : TypeParam) : Subject.TypeParam :=
  ⟨p.name, p.bounds.map typeOf, p.isReified⟩

def Parameter.withTypes (p : Parameter) : Subject.Parameter :=
  ⟨p.name, typeOf p.type, p.isVararg, p.hasDefault⟩

def Function.withTypes (f : Function) : Subject.Function where
  name := f.name
  typeParams := f.typeParams.map (TypeParam.withTypes typeOf)
  parameters := f.parameters.map (Parameter.withTypes typeOf)
  result := typeOf f.result
  isSuspend := f.isSuspend
  isInline := f.isInline
  modality := f.modality
  origin := f.origin

def Property.withTypes (p : Property) : Subject.Property :=
  ⟨p.name, p.getterType.map typeOf, p.fieldType.map typeOf, p.isMutable, p.modality, p.origin⟩

def Member.withTypes : Member → Subject.Member
  | .function f => .function (f.withTypes typeOf)
  | .property p => .property (p.withTypes typeOf)

end Types

section Scopes

variable (typeOf : TypeText.Scope → String → TypeRef)

/-- The declaration with the type of each text in its place, where every member has a scope of its own. -/
def Declaration.withTypes (imports : List String) (d : Declaration) : Subject where
  package := d.package
  name := d.name
  shape := d.shape
  typeParams := d.typeParams.map (TypeParam.withTypes (typeOf (d.scopeWith imports [])))
  members := d.members.map fun member =>
    member.withTypes (typeOf (d.scopeWith imports member.ownTypeParams))
  annotations := d.annotations
  requiredArguments := d.requiredArguments
  sourceFile := d.sourceFile

def withTypes (m : Manifest) : List Subject :=
  m.declarations.map (Declaration.withTypes typeOf m.imports)

end Scopes

/-! ## Reading sites in order -/

section Reading

variable {α β γ : Type} {typeOf : TypeText.Scope → String → TypeRef}

/-- Whether a site has the type that it should have. -/
def Site.Denotes (typeOf : TypeText.Scope → String → TypeRef) (site : Site) : Prop :=
  TypeText.parse site.scope site.text = .ok (typeOf site.scope site.text)

/-- Whether a computation reads sites in order: it comes to the value if all of them denote their types, and
    otherwise to the error of the first one that is wrong. -/
structure Reads (typeOf : TypeText.Scope → String → TypeRef) (sites : List Site)
    (result : Except ManifestError α) (value : α) : Prop where
  ok : (∀ site ∈ sites, site.Denotes typeOf) → result = .ok value
  error : ∀ {before site after cause}, sites = before ++ site :: after →
    (∀ earlier ∈ before, earlier.Denotes typeOf) →
    TypeText.parse site.scope site.text = .error cause →
    result = .error (.badType site.declaration site.text cause)

namespace Reads

variable {sites sites' : List Site} {x : Except ManifestError α} {a : α}

theorem pure (a : α) : Reads typeOf [] (.ok a) a where
  ok _ := rfl
  error hsites := absurd hsites.symm (List.append_ne_nil_of_right_ne_nil _ (List.cons_ne_nil _ _))

theorem type (declaration : String) (scope : TypeText.Scope) (text : String) :
    Reads typeOf [⟨declaration, scope, text⟩] (resolveType declaration scope text)
      (typeOf scope text) where
  ok hdenotes := by
    have hparse := hdenotes _ List.mem_cons_self
    rw [Site.Denotes] at hparse
    rw [resolveType, hparse]
  error hsites _ hcause := by
    obtain ⟨rfl, hsite⟩ | ⟨_, -, hnil⟩ := List.append_eq_cons_iff.1 hsites.symm
    · obtain rfl := (List.cons.inj hsite).1
      rw [resolveType, hcause]
    · exact absurd hnil.symm (List.append_ne_nil_of_right_ne_nil _ (List.cons_ne_nil _ _))

theorem bind {f : α → Except ManifestError β} {b : β} (hx : Reads typeOf sites x a)
    (hf : Reads typeOf sites' (f a) b) : Reads typeOf (sites ++ sites') (x >>= f) b where
  ok hdenotes := by
    rw [hx.ok fun site hsite => hdenotes site (List.mem_append_left _ hsite)]
    exact hf.ok fun site hsite => hdenotes site (List.mem_append_right _ hsite)
  error {before site after cause} hsites hbefore hcause := by
    -- The first wrong text is one of the first computation, or the first computation comes to its value.
    obtain ⟨middle, hbefore', hsites'⟩ | ⟨middle, hsites', hafter⟩ :=
      List.append_eq_append_iff.1 hsites
    · subst hbefore'
      rw [hx.ok fun earlier hearlier => hbefore earlier (List.mem_append_left _ hearlier)]
      exact hf.error hsites' (fun earlier hearlier => hbefore earlier (List.mem_append_right _ hearlier))
        hcause
    · cases middle with
      | nil =>
          rw [List.append_nil] at hsites'
          subst hsites'
          have hsites' : sites' = [] ++ site :: after := hafter.symm
          rw [hx.ok hbefore]
          exact hf.error hsites' (fun _ h => absurd h List.not_mem_nil) hcause
      | cons first middle =>
          obtain ⟨rfl, -⟩ := List.cons.inj hafter
          rw [hx.error hsites' hbefore hcause]
          rfl

theorem map {f : α → β} (hx : Reads typeOf sites x a) :
    Reads typeOf sites (x >>= fun a => .ok (f a)) (f a) := by
  have hbind := hx.bind (f := fun a => .ok (f a)) (pure (f a))
  rwa [List.append_nil] at hbind

theorem mapM {f : α → Except ManifestError β} {value : α → β} {sitesOf : α → List Site}
    (h : ∀ a, Reads typeOf (sitesOf a) (f a) (value a)) (l : List α) :
    Reads typeOf (l.flatMap sitesOf) (l.mapM f) (l.map value) := by
  induction l with
  | nil => exact pure []
  | cons a rest ih =>
      rw [List.mapM_cons, List.flatMap_cons, List.map_cons]
      exact (h a).bind ih.map

end Reads

end Reading

end KotlinFakes.Manifest
