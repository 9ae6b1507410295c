import KotlinFakes.Fake.File
import KotlinFakes.Store.Basic

/-!
# Settings of a pass

Where a pass writes, what it generates and what it remembers.
-/

namespace KotlinFakes.Pass

/-- The settings of a pass. -/
structure Config where
  /-- The directory below which files are written. -/
  output : Path
  /-- The file of the signature store; without one nothing is remembered. -/
  cache : Option Path
  mode : PersistMode
  /-- Whether declarations may be processed at the same time. -/
  isParallel : Bool
  /-- Whether everything is generated again, changed or not. -/
  isForced : Bool
  /-- The annotation that asks for a fake. -/
  marker : String
  hasBanner : Bool
  deriving Repr, DecidableEq

namespace Config

/-- The settings that hold unless others are chosen. -/
def standard : Config where
  output := ⟨"build/generated/fakt"⟩
  cache := none
  mode := .onFlush
  isParallel := true
  isForced := false
  marker := "Fake"
  hasBanner := true

def fileOptions (config : Config) : FileOptions := ⟨config.hasBanner⟩

/-- Load the signature store, if there is to be one. -/
def openStore {m : Type → Type} [Monad m] [FileSystem m] (config : Config) :
    m (Option SignatureStore) := do
  match config.cache with
  | none => return none
  | some path => return some (← SignatureStore.load path config.mode)

end Config

end KotlinFakes.Pass
