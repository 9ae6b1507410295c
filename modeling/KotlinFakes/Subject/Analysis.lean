import KotlinFakes.Subject.Draft

/-!
# Analysed subjects

The blueprint of a subject with its generics classified, and warnings about generics that look
wrong. A warning never changes the blueprint.
-/

namespace KotlinFakes

namespace Draft

/-- Where the draft declares type parameters. -/
def generics (d : Draft) : Generics :=
  .ofLevels (!d.blueprint.typeParams.isEmpty)
    (d.blueprint.functions.any fun f => !f.typeParams.isEmpty)

/-- A warning about a declaration. -/
def warn (declaration : String) (code : Code) (message : String) (notes : List String) :
    Diagnostic where
  code := code
  severity := .warning
  message := message
  declaration := some declaration
  notes := notes

/-- The warning about a bound that could not be resolved. -/
def unresolvedBoundWarning (declaration : String) (bound : UnresolvedBound) : Diagnostic :=
  let owner :=
    match bound.function with
    | some function => "`" ++ function ++ "`"
    | none => "the declaration"
  warn declaration .unresolvedBound
    ("bound `" ++ bound.text ++ "` of type parameter `" ++ bound.parameter ++ "` on " ++ owner ++
      " could not be resolved")
    ["the bound was replaced by `Any?`"]

/-- Whether a parameter or the result of a function mentions a type parameter. -/
def usesInSignature (f : Blueprint.Function) (name : String) : Bool :=
  f.parameters.any (fun p => p.type.mentions name) || f.result.mentions name

def usesInBounds (params : List TypeParam) (name : String) : Bool :=
  params.any fun p => p.bounds.any fun bound => bound.mentions name

/-- Whether a member or a bound of another type parameter mentions a type parameter of the
    declaration. -/
def uses (b : Blueprint) (name : String) : Bool :=
  b.functions.any (fun f => usesInSignature f name || usesInBounds f.typeParams name) ||
    b.properties.any (fun p => p.type.mentions name) ||
    usesInBounds (b.typeParams.filter fun p => p.name != name) name

def functionWarnings (declaration : String) (f : Blueprint.Function) : List Diagnostic :=
  let unused := f.typeParams.filter fun p => !usesInSignature f p.name
  unused.map (fun p =>
    warn declaration .unusedTypeParam
      ("type parameter `" ++ p.name ++ "` of `" ++ f.name ++
        "` is not used by any parameter or the return type") []) ++
    if f.inherited = .implemented && f.hasBounds then
      [warn declaration .cannotDelegate
        ("open function `" ++ f.name ++
          "` has bounded type parameters and cannot forward to its supertype implementation")
        ["its default behavior fails until it is configured"]]
    else []

def declarationWarnings (b : Blueprint) : List Diagnostic :=
  (b.typeParams.filter fun p => !uses b p.name).map fun p =>
    warn b.qualifiedName .unusedTypeParam
      ("type parameter `" ++ p.name ++ "` is not used by any member") []

/-- The warnings about a draft: unresolved bounds, then functions, then the declaration. -/
def warnings (d : Draft) : List Diagnostic :=
  let declaration := d.blueprint.qualifiedName
  d.unresolvedBounds.map (unresolvedBoundWarning declaration) ++
    d.blueprint.functions.flatMap (functionWarnings declaration) ++
    declarationWarnings d.blueprint

end Draft

/-- What is known about a subject before its fake is generated. -/
structure Analysis where
  blueprint : Blueprint
  warnings : List Diagnostic
  deriving Repr, DecidableEq

def Subject.analyze (s : Subject) : Except Rejection Analysis :=
  match s.draft with
  | .error r => .error r
  | .ok d => .ok ⟨{ d.blueprint with generics := d.generics }, d.warnings⟩

end KotlinFakes
