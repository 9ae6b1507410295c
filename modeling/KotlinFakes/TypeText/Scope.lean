import KotlinFakes.Text.LetterCase
import KotlinFakes.Text.Split

/-!
# Scopes of type texts

What the names in a type text mean. A name is a type parameter in scope, an imported class, a class
of the standard library, a class written in full, or a class of the declaration's own package.
-/

namespace KotlinFakes.TypeText

/-- The packages of the standard classes that every file sees. -/
def builtins : List (String × String) := [
  ("Any", "kotlin"),
  ("Array", "kotlin"),
  ("Boolean", "kotlin"),
  ("BooleanArray", "kotlin"),
  ("Byte", "kotlin"),
  ("ByteArray", "kotlin"),
  ("Char", "kotlin"),
  ("CharArray", "kotlin"),
  ("CharSequence", "kotlin"),
  ("Comparable", "kotlin"),
  ("Double", "kotlin"),
  ("DoubleArray", "kotlin"),
  ("Enum", "kotlin"),
  ("Exception", "kotlin"),
  ("Float", "kotlin"),
  ("FloatArray", "kotlin"),
  ("Int", "kotlin"),
  ("IntArray", "kotlin"),
  ("Lazy", "kotlin"),
  ("Long", "kotlin"),
  ("LongArray", "kotlin"),
  ("Nothing", "kotlin"),
  ("Number", "kotlin"),
  ("Pair", "kotlin"),
  ("Result", "kotlin"),
  ("Short", "kotlin"),
  ("ShortArray", "kotlin"),
  ("String", "kotlin"),
  ("Throwable", "kotlin"),
  ("Triple", "kotlin"),
  ("Unit", "kotlin"),
  ("ArrayList", "kotlin.collections"),
  ("Collection", "kotlin.collections"),
  ("HashMap", "kotlin.collections"),
  ("HashSet", "kotlin.collections"),
  ("Iterable", "kotlin.collections"),
  ("Iterator", "kotlin.collections"),
  ("LinkedHashMap", "kotlin.collections"),
  ("LinkedHashSet", "kotlin.collections"),
  ("List", "kotlin.collections"),
  ("Map", "kotlin.collections"),
  ("MutableCollection", "kotlin.collections"),
  ("MutableIterable", "kotlin.collections"),
  ("MutableList", "kotlin.collections"),
  ("MutableMap", "kotlin.collections"),
  ("MutableSet", "kotlin.collections"),
  ("Set", "kotlin.collections"),
  ("Sequence", "kotlin.sequences")]

/-- What the names in a type text are resolved against. -/
structure Scope where
  package : String
  imports : List String
  typeParams : List String
  deriving Repr, DecidableEq

namespace Scope

def withTypeParams (scope : Scope) (names : List String) : Scope :=
  { scope with typeParams := scope.typeParams ++ names }

def isTypeParam (scope : Scope) (written : String) : Bool := scope.typeParams.contains written

/-- The first segment of a written name, and the rest if there are more. -/
def splitFirst (written : String) : String × Option String :=
  match Text.cut '.' written.toList with
  | some (first, rest) => (String.ofList first, some (String.ofList rest))
  | none => (written, none)

/-- Whether a segment starts with a small letter. -/
def startsSmall (segment : String) : Bool :=
  match segment.toList with
  | [] => false
  | c :: _ => Text.isLowercase c

/-- The import whose last segment is the given one. -/
def importOf? (scope : Scope) (segment : String) : Option String :=
  scope.imports.find? fun path => (Text.segments path).getLast? = some segment

/-- The full name of a written class name. A dotted name that starts with a small letter is taken
    to be full already. -/
def resolveClass (scope : Scope) (written : String) : String :=
  let (first, rest) := splitFirst written
  let below (base : String) : String :=
    match rest with
    | some rest => base ++ "." ++ rest
    | none => base
  match scope.importOf? first with
  | some path => below path
  | none =>
    match builtins.lookup first with
    | some package => below (package ++ "." ++ first)
    | none =>
      if rest.isSome && startsSmall first then written
      else if scope.package = "" then written
      else scope.package ++ "." ++ written

end Scope

end KotlinFakes.TypeText
