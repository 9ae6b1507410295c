import KotlinFakes.Blueprint.Basic
import KotlinFakes.Fake.Names
import KotlinFakes.Layout
import KotlinFakes.Ty.NamePolicy

/-!
# The factory function

The function that makes a fake and configures it. For a generic fake it is inline, and its type
parameters are reified.
-/

namespace KotlinFakes.Fake

open Layout

/-- The factory function of a subject. -/
structure Maker where
  subject : String
  isGeneric : Bool
  typeParams : List TypeParam
  deriving Repr, DecidableEq

namespace Maker

/-- The factory function of a blueprint. -/
def ofBlueprint (b : Blueprint) : Maker := ⟨b.name, b.generics.hasClassLevel, b.classTypeParams⟩

def fakeType (m : Maker) : String :=
  implementationClass m.subject ++ NamePolicy.writeArguments m.typeParams

def configurationType (m : Maker) : String :=
  configurationClass m.subject ++ NamePolicy.writeArguments m.typeParams

def header (policy : NamePolicy) (m : Maker) : String :=
  (if m.isGeneric then "inline fun " ++ policy.writeTypeParams true m.typeParams ++ " "
    else "fun ") ++
    factoryFunction m.subject ++ "(configure: " ++ m.configurationType ++
    ".() -> Unit = \x7b\x7d): " ++ m.fakeType ++ policy.writeWhere m.typeParams

def blocks (policy : NamePolicy) (m : Maker) : List Block :=
  [.block (m.header policy)
    [.line ("return " ++ m.fakeType ++ "().apply \x7b " ++ m.configurationType ++
      "(this).configure() \x7d")]]

end Maker

end KotlinFakes.Fake
