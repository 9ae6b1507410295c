import KotlinFakes.QualifiedName

/-!
# Empty containers

The standard library functions that build an empty container, and the classes they are the default
of.
-/

namespace KotlinFakes

/-- A function that builds an empty container and takes no arguments. -/
inductive Factory where
  | emptyList
  | mutableListOf
  | emptySet
  | mutableSetOf
  | emptyMap
  | mutableMapOf
  | emptySequence
  | emptyArray
  | emptyFlow
  deriving Repr, DecidableEq

namespace Factory

def name : Factory → String
  | emptyList => "emptyList"
  | mutableListOf => "mutableListOf"
  | emptySet => "emptySet"
  | mutableSetOf => "mutableSetOf"
  | emptyMap => "emptyMap"
  | mutableMapOf => "mutableMapOf"
  | emptySequence => "emptySequence"
  | emptyArray => "emptyArray"
  | emptyFlow => "emptyFlow"

/-- The one factory that a file has to import. -/
def flowImport : QualifiedName := ⟨"kotlinx.coroutines.flow", "emptyFlow"⟩

/-- The container classes and the factories of their default. -/
def containers : List (String × Factory) := [
  ("kotlin.collections.List", emptyList),
  ("kotlin.collections.Collection", emptyList),
  ("kotlin.collections.Iterable", emptyList),
  ("kotlin.collections.MutableList", mutableListOf),
  ("kotlin.collections.MutableCollection", mutableListOf),
  ("kotlin.collections.MutableIterable", mutableListOf),
  ("kotlin.collections.ArrayList", mutableListOf),
  ("kotlin.collections.Set", emptySet),
  ("kotlin.collections.MutableSet", mutableSetOf),
  ("kotlin.collections.HashSet", mutableSetOf),
  ("kotlin.collections.Map", emptyMap),
  ("kotlin.collections.MutableMap", mutableMapOf),
  ("kotlin.collections.HashMap", mutableMapOf),
  ("kotlin.sequences.Sequence", emptySequence)]

end Factory

end KotlinFakes
