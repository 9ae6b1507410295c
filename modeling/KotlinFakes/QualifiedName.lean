import KotlinFakes.Text.LetterCase
import KotlinFakes.Text.Split

/-!
# Qualified names

A class name split into its package and the class path inside it. The class path has dots of its
own for nested classes, and a nested class is imported through its outermost class.
-/

namespace KotlinFakes

/-- A class name in a package; the package is empty for local names. -/
structure QualifiedName where
  package : String
  simple : String
  deriving Repr, DecidableEq

namespace QualifiedName

/-- A name without a package. -/
def unpackaged (simple : String) : QualifiedName := ⟨"", simple⟩

/-- The packages whose members every Kotlin file sees without an import. Only these exact packages
    count: `kotlin.coroutines` is not among them. -/
def defaultImports : List String :=
  ["kotlin", "kotlin.annotation", "kotlin.collections", "kotlin.comparisons", "kotlin.io",
    "kotlin.ranges", "kotlin.sequences", "kotlin.text", "kotlin.jvm", "java.lang"]

/-- Whether a segment of a dotted name starts with a capital. -/
def startsClass (segment : String) : Bool :=
  match segment.toList with
  | [] => false
  | c :: _ => Text.isUppercase c

/-- How many segments of a dotted name belong to the package: those before the first capitalised
    one, or all but the last when none is capitalised. -/
def packageLength (segments : List String) : Nat :=
  (segments.findIdx? startsClass).getD (segments.length - 1)

/-- Split a dotted name into package and class path. -/
def parse (dotted : String) : QualifiedName :=
  let segments := Text.segments dotted
  let n := packageLength segments
  ⟨Text.joinWith "." (segments.take n), Text.joinWith "." (segments.drop n)⟩

/-- The outermost class, which is the one that gets imported. -/
def topLevel (name : QualifiedName) : String :=
  (Text.segments name.simple).headD name.simple

/-- The innermost class. -/
def short (name : QualifiedName) : String :=
  (Text.segments name.simple).getLastD name.simple

/-- A dotted path inside the package of a name. -/
def within (package path : String) : String :=
  if package = "" then path else package ++ "." ++ path

/-- The path that an import of the name would have. -/
def importPath (name : QualifiedName) : String :=
  within name.package name.topLevel

/-- The full dotted form. -/
def full (name : QualifiedName) : String :=
  within name.package name.simple

/-- Whether every file sees the name without an import. -/
def isDefaultImported (name : QualifiedName) : Bool :=
  name.package = "" || defaultImports.contains name.package

end QualifiedName

end KotlinFakes
