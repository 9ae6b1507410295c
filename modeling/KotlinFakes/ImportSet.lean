import KotlinFakes.Blueprint.Basic
import KotlinFakes.Text.Ordered
import KotlinFakes.Ty.NamePolicy

/-!
# Imports

The import list of a file and the classes it has to write in full. Of several classes with the same
short name one gets it: classes of the runtime first, then those that need an import, then those of
the file's own package, then those visible by default. All others are written in full.
-/

namespace KotlinFakes

/-- On what ground a class asks for its short name, strongest first. -/
inductive Ground where
  | runtime
  | imported
  | samePackage
  | defaultImported
  deriving Repr, DecidableEq

namespace Ground

/-- The strongest ground has the least rank. -/
def rank : Ground → Nat
  | runtime => 0
  | imported => 1
  | samePackage => 2
  | defaultImported => 3

/-- The ground of a class in a file of the given package. -/
def ofName (package : String) (name : QualifiedName) : Ground :=
  if name.package = package then .samePackage
  else if name.isDefaultImported then .defaultImported
  else .imported

/-- Whether a class needs an import if it gets its short name. -/
def needsImport : Ground → Bool
  | runtime | imported => true
  | samePackage | defaultImported => false

end Ground

/-- A class that asks for a short name. -/
structure Contender where
  shortName : String
  ground : Ground
  path : String
  deriving Repr, DecidableEq

namespace Contender

def ofName (ground : Ground) (name : QualifiedName) : Contender :=
  ⟨name.topLevel, ground, name.importPath⟩

/-- Whether a contender goes before another of the same short name: by ground, then by path. -/
def precedes (a b : Contender) : Bool :=
  decide (a.ground.rank < b.ground.rank) ||
    (a.ground.rank == b.ground.rank && decide (a.path < b.path))

def first (a : Contender) : List Contender → Contender
  | [] => a
  | b :: rest => first (if b.precedes a then b else a) rest

/-- The contender that gets the short name of the given one. -/
def winner (all : List Contender) (a : Contender) : Contender :=
  first a (all.filter fun b => b.shortName = a.shortName)

end Contender

/-- The imports of a file and the import paths of the classes that it writes in full. -/
structure ImportSet where
  imports : List String
  qualified : List String
  deriving Repr, DecidableEq

namespace ImportSet

/-- The classes that every fake uses for its counters. -/
def runtimeClasses : List QualifiedName :=
  [⟨"kotlinx.coroutines.flow", "MutableStateFlow"⟩, ⟨"kotlinx.coroutines.flow", "StateFlow"⟩]

/-- The function that every fake uses for its counters. -/
def runtimeFunction : QualifiedName := ⟨"kotlinx.coroutines.flow", "update"⟩

/-- The classes that a file of the blueprint mentions. -/
def contenders (b : Blueprint) : List Contender :=
  .ofName .samePackage b.subject :: runtimeClasses.map (.ofName .runtime) ++
    (b.mentionedTypes.flatMap Ty.classNames).map fun name =>
      .ofName (.ofName b.package name) name

/-- The imports of a blueprint's file, which also calls the given functions. -/
def resolve (b : Blueprint) (functions : List QualifiedName) : ImportSet :=
  let all := contenders b
  let winners := all.filter fun c => c.winner all = c && c.ground.needsImport
  let losers := all.filter fun c => (c.winner all).path != c.path
  let called := functions.filter fun f => Ground.ofName b.package f = .imported
  { imports := Text.ordered
      (winners.map Contender.path ++
        (runtimeFunction :: called).map QualifiedName.importPath)
    qualified := Text.ordered (losers.map Contender.path) }

/-- How the file writes class names. -/
def policy (set : ImportSet) : NamePolicy := ⟨set.qualified⟩

end ImportSet

end KotlinFakes
