import KotlinFakes.Files.System
import KotlinFakes.Signature.Basic
import KotlinFakes.Store.Entries

/-!
# Signature stores

A store remembers in a file which digest each declaration had when its fake was last written. After
any failure to read or write the file the store is degraded: it then takes every declaration for
changed, because generating too much does no harm and generating too little does.
-/

namespace KotlinFakes

/-- When recorded digests reach the file. -/
inductive PersistMode where
  /-- All together at the end of a pass. -/
  | onFlush
  /-- Each one at once. -/
  | perEntry
  deriving Repr, DecidableEq

/-- Why the file of a store cannot be used. -/
inductive StoreError where
  | unreadable (path : Path) (fault : FileFault)
  | unwritable (path : Path) (fault : FileFault)
  deriving Repr, DecidableEq

namespace StoreError

def path : StoreError → Path
  | .unreadable path _ | .unwritable path _ => path

def message : StoreError → String
  | .unreadable path fault => "cannot read signature cache `" ++ path.text ++ "`: " ++ fault.message
  | .unwritable path fault => "cannot write signature cache `" ++ path.text ++ "`: " ++ fault.message

end StoreError

/-- A store with the failures that have not been reported yet. -/
structure SignatureStore where
  path : Path
  mode : PersistMode
  entries : Entries
  isDegraded : Bool
  errors : List StoreError
  deriving Repr, DecidableEq

namespace SignatureStore

/-- A store without entries. -/
def fresh (path : Path) (mode : PersistMode) : SignatureStore := ⟨path, mode, .empty, false, []⟩

/-- The store after a failure that is still to be reported. -/
def degrade (store : SignatureStore) (e : StoreError) : SignatureStore :=
  { store with isDegraded := true, errors := store.errors ++ [e] }

def digest? (store : SignatureStore) (id : String) : Option String := store.entries.get? id

/-- Whether the fake of a declaration has to be generated: always, unless the store is in order and
    has recorded the digest of the signature. -/
def needsGeneration (store : SignatureStore) (id : String) (signature : Signature) : Bool :=
  store.isDegraded || store.digest? id != some signature.digest

/-- The failures that have not been reported yet. -/
def takeErrors (store : SignatureStore) : List StoreError × SignatureStore :=
  (store.errors, { store with errors := [] })

/-- The store with the digest of a signature recorded in memory. -/
def remember (store : SignatureStore) (id : String) (signature : Signature) : SignatureStore :=
  { store with entries := store.entries.insert id signature.digest }

section Files

variable {m : Type → Type} [Monad m] [FileSystem m]

/-- Load a store from its file. If there is no file, the store is empty. -/
def load (path : Path) (mode : PersistMode) : m SignatureStore := do
  match ← (FileSystem.readText path).run with
  | .ok text => return { fresh path mode with entries := .parse text }
  | .error .missing => return fresh path mode
  | .error fault => return (fresh path mode).degrade (.unreadable path fault)

/-- Append an entry to the file. A new file gets the header first. -/
def appendEntry (path : Path) (id : String) (signature : Signature) :
    ExceptT FileFault m Unit := do
  FileSystem.makeParent path
  let entry := Entries.line id signature.digest
  if ← (FileSystem.isPresent path : m Bool) then FileSystem.appendText path entry
  else FileSystem.appendText path (Entries.header ++ "\n" ++ entry)

/-- Record that the fake of a declaration was generated. -/
def record (store : SignatureStore) (id : String) (signature : Signature) : m SignatureStore := do
  let store := store.remember id signature
  match store.mode with
  | .onFlush => return store
  | .perEntry =>
    match ← (appendEntry store.path id signature).run with
    | .ok () => return store
    | .error fault => return store.degrade (.unwritable store.path fault)

/-- Write all entries to the file, unless that is done one by one. A failure is handed to the caller
    and not kept. -/
def flush (store : SignatureStore) : m (Except StoreError Unit × SignatureStore) := do
  match store.mode with
  | .perEntry => return (.ok (), store)
  | .onFlush =>
    match ← (FileSystem.replaceText store.path store.entries.render).run with
    | .ok () => return (.ok (), store)
    | .error fault =>
      return (.error (.unwritable store.path fault), { store with isDegraded := true })

end Files

end SignatureStore

end KotlinFakes
