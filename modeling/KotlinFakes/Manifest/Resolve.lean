import KotlinFakes.Manifest.Decode
import KotlinFakes.Manifest.Error
import KotlinFakes.TypeText.Parser

/-!
# Resolving manifests

The subjects that a manifest describes. Each type text is read in the scope of its declaration, and
inside a function in that scope with the function's own type parameters. The first text that is wrong
is the error of the whole manifest.
-/

namespace KotlinFakes

namespace Manifest

/-- The type that a text of a declaration denotes. -/
def resolveType (declaration : String) (scope : TypeText.Scope) (text : String) :
    Except ManifestError TypeRef :=
  match TypeText.parse scope text with
  | .ok type => .ok type
  | .error e => .error (.badType declaration text e)

/-- The type that a text denotes, if there is a text. -/
def resolveType? (declaration : String) (scope : TypeText.Scope) :
    Option String → Except ManifestError (Option TypeRef)
  | none => .ok none
  | some text => do
    let type ← resolveType declaration scope text
    return some type

def TypeParam.resolve (declaration : String) (scope : TypeText.Scope) (p : TypeParam) :
    Except ManifestError Subject.TypeParam := do
  let bounds ← p.bounds.mapM (resolveType declaration scope)
  return ⟨p.name, bounds, p.isReified⟩

def Parameter.resolve (declaration : String) (scope : TypeText.Scope) (p : Parameter) :
    Except ManifestError Subject.Parameter := do
  let type ← resolveType declaration scope p.type
  return ⟨p.name, type, p.isVararg, p.hasDefault⟩

def Function.scope (outer : TypeText.Scope) (f : Function) : TypeText.Scope :=
  outer.withTypeParams (f.typeParams.map TypeParam.name)

/-- The function with its types resolved: those of its parameters, then its bounds, then its
    result. -/
def Function.resolve (declaration : String) (outer : TypeText.Scope) (f : Function) :
    Except ManifestError Subject.Function := do
  let parameters ← f.parameters.mapM (Parameter.resolve declaration (f.scope outer))
  let typeParams ← f.typeParams.mapM (TypeParam.resolve declaration (f.scope outer))
  let result ← resolveType declaration (f.scope outer) f.result
  return {
    name := f.name
    typeParams := typeParams
    parameters := parameters
    result := result
    isSuspend := f.isSuspend
    isInline := f.isInline
    modality := f.modality
    origin := f.origin }

/-- The property with its types resolved: that of its getter, then that of its field. -/
def Property.resolve (declaration : String) (scope : TypeText.Scope) (p : Property) :
    Except ManifestError Subject.Property := do
  let getterType ← resolveType? declaration scope p.getterType
  let fieldType ← resolveType? declaration scope p.fieldType
  return ⟨p.name, getterType, fieldType, p.isMutable, p.modality, p.origin⟩

def Member.resolve (declaration : String) (scope : TypeText.Scope) :
    Member → Except ManifestError Subject.Member
  | .function f => do
    let f ← f.resolve declaration scope
    return .function f
  | .property p => do
    let p ← p.resolve declaration scope
    return .property p

namespace Declaration

def qualifiedName (d : Declaration) : String := QualifiedName.within d.package d.name

/-- The scope of the declaration's types. Its own imports come before those of the manifest. -/
def scope (imports : List String) (d : Declaration) : TypeText.Scope :=
  ⟨d.package, d.imports ++ imports, d.typeParams.map TypeParam.name⟩

/-- The subject that the declaration describes. Its bounds are resolved before its members. -/
def resolve (imports : List String) (d : Declaration) : Except ManifestError Subject := do
  let typeParams ← d.typeParams.mapM (TypeParam.resolve d.qualifiedName (d.scope imports))
  let members ← d.members.mapM (Member.resolve d.qualifiedName (d.scope imports))
  return {
    package := d.package
    name := d.name
    shape := d.shape
    typeParams := typeParams
    members := members
    annotations := d.annotations
    requiredArguments := d.requiredArguments
    sourceFile := d.sourceFile }

end Declaration

def resolve (m : Manifest) : Except ManifestError (List Subject) :=
  m.declarations.mapM (Declaration.resolve m.imports)

/-- The subjects that the text of a manifest describes. -/
def subjects (text : String) : Except ManifestError (List Subject) :=
  match ofText? text with
  | none => .error .malformed
  | some m => m.resolve

end Manifest

end KotlinFakes
