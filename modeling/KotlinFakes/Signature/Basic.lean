import KotlinFakes.Blueprint.Basic
import KotlinFakes.Signature.Sha256
import KotlinFakes.Text.Split

/-!
# Structural signatures

A signature is a text that names everything that can change the file of a fake: the generator, the
options, and every member with its types, one per line and in order. Types are written in full and
unambiguously. The digest of the text tells whether a file has to be generated again.
-/

namespace KotlinFakes

/-- The version of the generator, on which all signatures depend. -/
def generatorVersion : String := "0.1.0-alpha.1"

namespace Signature

mutual
/-- A type in a signature, with every class in full. -/
def typeText : Ty → String
  | .primitive p => "kotlin." ++ p.name
  | .nullable inner => "(" ++ typeText inner ++ ")?"
  | .apply name args => name.full ++ "<" ++ Text.joinWith ", " (typeTexts args) ++ ">"
  | .function params isSuspend result =>
    (if isSuspend then "suspend " else "") ++ "(" ++ Text.joinWith ", " (typeTexts params) ++
      ") -> " ++ typeText result
  | .param name => "$" ++ name
  | .named name => name.full
/-- The types of a list in a signature. -/
def typeTexts : List Ty → List String
  | [] => []
  | t :: ts => typeText t :: typeTexts ts
end

def typeParamText (p : TypeParam) : String :=
  (if p.isReified then "reified " else "") ++ p.name ++
    if p.bounds.isEmpty then "" else " : " ++ Text.joinWith " & " (typeTexts p.bounds)

def propertyText (p : Blueprint.Property) : String :=
  "prop " ++ p.name ++ " : " ++ typeText p.type ++ (if p.isMutable then " var " else " val ") ++
    p.inherited.text ++ if p.isNullable then " nullable" else " nonnull"

def parameterText (p : Blueprint.Parameter) : String :=
  (if p.isVararg then "vararg " else "") ++ p.name ++ ": " ++ typeText p.type ++
    if p.hasDefault then " = default" else ""

/-- A function on one line. -/
def functionText (f : Blueprint.Function) : String :=
  "fun " ++
    (if f.typeParams.isEmpty then ""
      else "<" ++ Text.joinWith ", " (f.typeParams.map typeParamText) ++ "> ") ++
    f.name ++ "(" ++ Text.joinWith ", " (f.parameters.map parameterText) ++ "): " ++
    typeText f.result ++ (if f.isSuspend then " suspend" else "") ++
    (if f.isInline then " inline" else "") ++ " " ++ f.inherited.text

/-- The type parameters of the declaration, one per line and numbered. -/
def typeParamLines (index : Nat) : List TypeParam → List String
  | [] => []
  | p :: ps => ("tp " ++ toString index ++ " " ++ typeParamText p) :: typeParamLines (index + 1) ps

def lines (version options : String) (b : Blueprint) : List String :=
  ("fakt " ++ version) :: ("options " ++ options) ::
    (b.supertype.text ++ " " ++ b.qualifiedName) :: typeParamLines 0 b.typeParams ++
    b.properties.map propertyText ++ b.functions.map functionText

end Signature

/-- The structural signature of a blueprint. -/
structure Signature where
  text : String
  deriving Repr, DecidableEq

namespace Signature

/-- The signature of a blueprint, as a generator of some version renders it with some options. -/
def compute (version options : String) (b : Blueprint) : Signature :=
  ⟨String.join ((lines version options b).map fun line => line ++ "\n")⟩

def digest (s : Signature) : String := Sha256.digestText s.text

end Signature

end KotlinFakes
