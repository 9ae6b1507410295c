import KotlinFakes.Ty.Basic

/-!
# Type parameters

A type parameter of a declaration or a function with its upper bounds.
-/

namespace KotlinFakes

/-- A type parameter; no bounds means unbounded. -/
structure TypeParam where
  name : String
  bounds : List Ty
  isReified : Bool
  deriving Repr, DecidableEq

/-- Whether the bounds are written in a `where` clause. -/
def TypeParam.needsWhere (param : TypeParam) : Bool := decide (1 < param.bounds.length)

end KotlinFakes
