import KotlinFakes.Files.System
import KotlinFakes.Manifest.Resolve

/-!
# Loading manifests

The subjects that a manifest in a file describes.
-/

namespace KotlinFakes.Manifest

def load {m : Type → Type} [Monad m] [FileSystem m] (path : Path) :
    m (Except ManifestError (List Subject)) := do
  match ← (FileSystem.readText path).run with
  | .ok text => return subjects text
  | .error fault => return .error (.unreadable path fault)

end KotlinFakes.Manifest
