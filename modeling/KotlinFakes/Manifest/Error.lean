import KotlinFakes.Diagnostic.Basic
import KotlinFakes.Files.Fault
import KotlinFakes.Files.Path
import KotlinFakes.TypeText.Error

/-!
# Errors in manifests

Why no subjects come out of a manifest. Each of these ends the whole pass before anything is written.
-/

namespace KotlinFakes

/-- Why a manifest has no subjects. -/
inductive ManifestError where
  /-- The file cannot be read. -/
  | unreadable (path : Path) (fault : FileFault)
  /-- The text is not the JSON of a manifest. -/
  | malformed
  /-- The text of a type is wrong. -/
  | badType (declaration text : String) (error : TypeText.Error)
  deriving Repr, DecidableEq

namespace ManifestError

def message : ManifestError → String
  | .unreadable path fault => "cannot read manifest `" ++ path.text ++ "`: " ++ fault.message
  | .malformed => "malformed manifest: the text is not the JSON of a manifest"
  | .badType declaration text error =>
    "invalid type `" ++ text ++ "` in `" ++ declaration ++ "`: " ++ error.message

def diagnostic (e : ManifestError) : Diagnostic where
  code := .invalidManifest
  severity := .error
  message := e.message
  declaration := none
  notes := ["the generation pass was aborted; no files were written"]

end ManifestError

end KotlinFakes
