import KotlinFakes.Fake.Configuration
import KotlinFakes.Fake.Maker
import KotlinFakes.Files.Path
import KotlinFakes.ImportSet

/-!
# Generated files

The file of one fake: a banner, the package, the imports, and the three generated declarations. A
blueprint has a file if all its names can be written and no function is declared twice.
-/

namespace KotlinFakes

/-- Why a blueprint has no file. -/
inductive RenderError where
  /-- A name cannot be written. -/
  | invalidName (declaration name : String)
  /-- Two functions have the same name and parameter types. -/
  | duplicateFunction (declaration function : String)
  deriving Repr, DecidableEq

def RenderError.message : RenderError → String
  | .invalidName declaration name =>
    "`" ++ name ++ "` in `" ++ declaration ++ "` is not a valid Kotlin identifier"
  | .duplicateFunction declaration function =>
    "`" ++ declaration ++ "` declares `" ++ function ++ "` twice with the same parameter types"

namespace Blueprint

def Function.declaredNames (f : Function) : List String :=
  f.name :: f.parameters.map Parameter.name ++ f.typeParamNames

def declaredNames (b : Blueprint) : List String :=
  b.name :: b.typeParams.map TypeParam.name ++ b.properties.map Property.name ++
    b.functions.flatMap Function.declaredNames

/-- The first function that has the name and parameter types of an earlier one. -/
def firstRepeated (seen : List (String × List Ty)) : List Function → Option Function
  | [] => none
  | f :: fs => if seen.contains f.overload then some f else firstRepeated (f.overload :: seen) fs

/-- What keeps the blueprint from having a file, if anything does. -/
def renderError? (b : Blueprint) : Option RenderError :=
  match b.declaredNames.find? fun name => !Identifier.isValid name with
  | some name => some (.invalidName b.qualifiedName name)
  | none => (firstRepeated [] b.functions).map fun f => .duplicateFunction b.qualifiedName f.name

end Blueprint

/-- What can be chosen about generated files. -/
structure FileOptions where
  /-- Whether a file starts with a banner. -/
  hasBanner : Bool
  deriving Repr, DecidableEq

/-- The options as a text, which goes into structural signatures. -/
def FileOptions.fingerprint (options : FileOptions) : String :=
  "banner=" ++ if options.hasBanner then "true" else "false"

/-- The file of a fake. -/
structure FakeFile where
  declaration : String
  package : String
  name : String
  banner : Option String
  policy : NamePolicy
  imports : List String
  implementation : Fake.Implementation
  maker : Fake.Maker
  configuration : Fake.Configuration
  deriving Repr

namespace FakeFile

/-- The file of a blueprint whose names are in order. -/
def build (options : FileOptions) (b : Blueprint) : FakeFile :=
  let slots := SlotTable.ofBlueprint b
  let set := ImportSet.resolve b (Fake.defaultImports b)
  { declaration := b.id
    package := b.package
    name := Fake.fileName b.name
    banner :=
      if options.hasBanner then
        some ("Generated by Fakt from " ++ b.qualifiedName ++ ". Do not edit.")
      else none
    policy := set.policy
    imports := set.imports
    implementation := .ofBlueprint b slots
    maker := .ofBlueprint b
    configuration := .ofBlueprint b slots }

def generate (options : FileOptions) (b : Blueprint) : Except RenderError FakeFile :=
  match b.renderError? with
  | some e => .error e
  | none => .ok (build options b)

/-- A file that is generated is the one built from a blueprint in which nothing is wrong. -/
theorem generate_eq_ok_iff {options : FileOptions} {b : Blueprint} {file : FakeFile} :
    generate options b = .ok file ↔ b.renderError? = none ∧ build options b = file := by
  unfold generate
  cases b.renderError? with
  | none => simp
  | some e => simp

/-- The lines above the generated declarations. -/
def preamble (file : FakeFile) : String :=
  (match file.banner with
    | some banner => "// " ++ banner ++ "\n"
    | none => "") ++
    (if file.package = "" then "" else "package " ++ file.package ++ "\n\n") ++
    if file.imports.isEmpty then ""
    else String.join (file.imports.map fun path => "import " ++ path ++ "\n") ++ "\n"

def text (file : FakeFile) : String :=
  file.preamble ++ Layout.Block.text (file.implementation.blocks file.policy) ++ "\n" ++
    Layout.Block.text (file.maker.blocks file.policy) ++ "\n" ++
    Layout.Block.text (file.configuration.blocks file.policy)

end FakeFile

namespace Blueprint

/-- The directories of a package below the output directory. -/
def packageDirs (package : String) : List String :=
  (Text.segments package).filter fun segment => segment != ""

/-- Where the file of a blueprint belongs below a directory. -/
def targetPath (output : Path) (b : Blueprint) : Path :=
  (output.joinAll (packageDirs b.package)).join (Fake.fileName b.name)

end Blueprint

end KotlinFakes
