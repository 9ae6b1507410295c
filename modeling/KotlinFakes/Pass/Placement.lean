import KotlinFakes.Pass.Report
import KotlinFakes.Subject.Basic

/-!
# Placements

Below which directory the file of a subject goes, and in which order subjects are taken up.
-/

namespace KotlinFakes.Pass

/-- A subject with the directory below which its file goes. -/
structure Placement where
  subject : Subject
  output : Path

/-- What finds the directory for a subject, or tells why there is none. -/
abbrev Locator := Subject → Except Error Path

namespace Locator

/-- Every file goes below one directory. -/
def fixed (output : Path) : Locator := fun s =>
  if output.text = "" then .error (.noOutput s.qualifiedName "no output directory configured")
  else .ok output

/-- Find the directories of all subjects. -/
def place (locator : Locator) (subjects : List Subject) : Except Error (List Placement) :=
  subjects.mapM fun s => do return ⟨s, ← locator s⟩

end Locator

/-- The order in which subjects are taken up where they need not be taken up one after the other. It is
    told by their positions. -/
structure Pool where
  order : Nat → List Nat
  perm : ∀ n, (order n).Perm (List.range n)

namespace Pool

/-- A pool that takes up everything as it comes. -/
def inOrder : Pool := ⟨List.range, fun _ => .refl _⟩

variable {α : Type}

/-- The elements of a list in the order of the pool. -/
def take (pool : Pool) (xs : List α) : List α := (pool.order xs.length).filterMap (xs[·]?)

/-- What came out in the order of the pool, each at the position of what it came from. -/
def restore (pool : Pool) (xs : List α) : List α :=
  (List.range xs.length).filterMap fun i => ((pool.order xs.length).zip xs).lookup i

end Pool

end KotlinFakes.Pass
