import KotlinFakes.Primitive
import KotlinFakes.QualifiedName

/-!
# Types

The types that a fake mentions. Nullability is a wrapper of its own, and `Ty.orNull` never puts one
wrapper around another. A use-site `out` projection is an application of a reserved local name.
-/

namespace KotlinFakes

/-- A Kotlin type. -/
inductive Ty where
  /-- A built-in scalar. -/
  | primitive (p : Primitive)
  /-- The type with `null` added. -/
  | nullable (inner : Ty)
  /-- A class applied to type arguments. -/
  | apply (name : QualifiedName) (args : List Ty)
  /-- A function type. -/
  | function (params : List Ty) (isSuspend : Bool) (result : Ty)
  /-- A type parameter of the declaration or of a function. -/
  | param (name : String)
  /-- Any other class. -/
  | named (name : QualifiedName)
  deriving Repr

namespace Ty

mutual
/-- Structural equality. -/
def same : Ty → Ty → Bool
  | .primitive p, .primitive q => p = q
  | .nullable s, .nullable t => s.same t
  | .apply n ss, .apply m ts => n = m && sameAll ss ts
  | .function ps a s, .function qs b t => sameAll ps qs && a = b && s.same t
  | .param n, .param m => n = m
  | .named n, .named m => n = m
  | _, _ => false
def sameAll : List Ty → List Ty → Bool
  | [], [] => true
  | s :: ss, t :: ts => s.same t && sameAll ss ts
  | _, _ => false
end

mutual
theorem same_iff : ∀ s t : Ty, s.same t = true ↔ s = t
  | .primitive p, t => by cases t <;> simp [same]
  | .nullable s, t => by cases t <;> simp [same, same_iff s]
  | .apply n ss, t => by cases t <;> simp [same, sameAll_iff ss]
  | .function ps a s, t => by cases t <;> simp [same, sameAll_iff ps, same_iff s, and_assoc]
  | .param n, t => by cases t <;> simp [same]
  | .named n, t => by cases t <;> simp [same]
theorem sameAll_iff : ∀ ss ts : List Ty, sameAll ss ts = true ↔ ss = ts
  | [], ts => by cases ts <;> simp [sameAll]
  | s :: ss, ts => by cases ts <;> simp [sameAll, same_iff s, sameAll_iff ss]
end

instance : DecidableEq Ty := fun s t => decidable_of_iff _ (same_iff s t)

instance : Inhabited Ty := ⟨.primitive .unit⟩

def unit : Ty := .primitive .unit

/-- `Any?`, the type of which every type is a subtype. -/
def top : Ty := .nullable (.primitive .any)

/-- The star projection of a type argument. -/
def star : Ty := .named (.unpackaged "*")

/-- The type with `null` added; a nullable type stays as it is. -/
def orNull : Ty → Ty
  | .nullable inner => .nullable inner
  | t => .nullable t

/-- Whether the type is nullable at its outermost layer. -/
def isNullable : Ty → Bool
  | .nullable _ => true
  | _ => false

/-- The type without its outermost nullability. -/
def nonNull : Ty → Ty
  | .nullable inner => inner
  | t => t

/-- Whether the type is `Unit` itself. -/
def isUnit (t : Ty) : Bool := t = unit

/-- Whether the type is a function type, nullable or not. -/
def isFunction (t : Ty) : Bool :=
  match t.nonNull with
  | .function .. => true
  | _ => false

/-- The reserved local name that stands for a use-site `out`. -/
def outName : QualifiedName := .unpackaged "out"

/-- The `out` projection of a type argument. -/
def out (argument : Ty) : Ty := .apply outName [argument]

/-- The projected type of an `out` projection. -/
def projected? : Ty → Option Ty
  | .apply name args => if name = outName then args.head? else none
  | _ => none

/-- The type in which a `vararg` of the given element type arrives: the array class made for the
    element if there is one, else a general array that is read only. -/
def varargArray (element : Ty) : Ty :=
  let general : Ty := .apply ⟨"kotlin", "Array"⟩ [element.out]
  match element with
  | .primitive p =>
    match p.arrayClass? with
    | some simple => .named ⟨"kotlin", simple⟩
    | none => general
  | _ => general

mutual
/-- The type and all types inside it, each before its parts. -/
def nodes : Ty → List Ty
  | t@(.nullable inner) => t :: inner.nodes
  | t@(.apply _ args) => t :: nodesAll args
  | t@(.function params _ result) => t :: (nodesAll params ++ result.nodes)
  | t => [t]
def nodesAll : List Ty → List Ty
  | [] => []
  | t :: ts => t.nodes ++ nodesAll ts
end

/-- The class name that a node carries, unless it is local. -/
def className? : Ty → Option QualifiedName
  | .apply name _ => if name.package = "" then none else some name
  | .named name => if name.package = "" then none else some name
  | _ => none

/-- The class names that a type mentions, without the local ones. -/
def classNames (t : Ty) : List QualifiedName :=
  t.nodes.filterMap className?

end Ty

end KotlinFakes
