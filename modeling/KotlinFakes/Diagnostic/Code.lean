import KotlinFakes.Text.LetterCase

/-!
# Diagnostic codes

One code per class of failure. A code has a short text by which its explanation is looked up.
-/

namespace KotlinFakes

/-- A class of failure. -/
inductive Code where
  /-- The declaration cannot be faked. -/
  | unsupportedShape
  /-- A member has no type. -/
  | missingType
  /-- A file could not be rendered or written. -/
  | generationFailed
  /-- The signature cache cannot be used. -/
  | cacheUnavailable
  /-- A bound of a type parameter could not be resolved. -/
  | unresolvedBound
  /-- A type parameter is never used. -/
  | unusedTypeParam
  /-- The output directory could not be determined. -/
  | outputUnavailable
  /-- An open function cannot forward to its supertype. -/
  | cannotDelegate
  /-- The manifest is invalid. -/
  | invalidManifest
  deriving Repr, DecidableEq

namespace Code

def all : List Code :=
  [unsupportedShape, missingType, generationFailed, cacheUnavailable, unresolvedBound,
    unusedTypeParam, outputUnavailable, cannotDelegate, invalidManifest]

/-- The place of a code in the order. -/
def rank : Code → Nat
  | unsupportedShape => 1
  | missingType => 2
  | generationFailed => 3
  | cacheUnavailable => 4
  | unresolvedBound => 5
  | unusedTypeParam => 6
  | outputUnavailable => 7
  | cannotDelegate => 8
  | invalidManifest => 9

def text : Code → String
  | unsupportedShape => "F0001"
  | missingType => "F0002"
  | generationFailed => "F0003"
  | cacheUnavailable => "F0004"
  | unresolvedBound => "F0005"
  | unusedTypeParam => "F0006"
  | outputUnavailable => "F0007"
  | cannotDelegate => "F0008"
  | invalidManifest => "F0009"

def title : Code → String
  | unsupportedShape => "unsupported declaration shape"
  | missingType => "missing type information"
  | generationFailed => "generation failed"
  | cacheUnavailable => "signature cache unavailable"
  | unresolvedBound => "unresolved type parameter bound"
  | unusedTypeParam => "unused type parameter"
  | outputUnavailable => "output location unavailable"
  | cannotDelegate => "cannot delegate to supertype"
  | invalidManifest => "invalid declaration manifest"

/-- Whether a code is only ever reported as a warning. -/
def isWarning : Code → Bool
  | cacheUnavailable | unresolvedBound | unusedTypeParam | cannotDelegate => true
  | _ => false

/-- The code of a text, in capital or small letters. -/
def ofText? (written : String) : Option Code :=
  let upper := String.ofList (written.toList.flatMap Text.upperCase)
  all.find? fun code => code.text = upper

end Code

end KotlinFakes
