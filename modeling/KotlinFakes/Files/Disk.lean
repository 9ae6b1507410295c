import KotlinFakes.Files.System
import KotlinFakes.Text.Ordered

/-!
# Disks

A file system as a value. A place on a disk is the list of names that leads to it from the root. A
disk can be told in advance which of the coming operations it has to refuse; the others do what their
paths and the nodes at them allow.
-/

namespace KotlinFakes

/-- What stands at a place. -/
inductive Node where
  | directory
  | file (content : ByteArray)

/-- A place on a disk. -/
abbrev Place := List String

/-- The refusal of an operation. -/
structure Refusal where
  fault : FileFault
  /-- How many bytes of a file are written all the same; none if the file is not even opened. -/
  written : Option Nat
  deriving Repr, DecidableEq

/-- A disk. When nothing is foreseen for the coming operations any more, none is refused. -/
structure Disk where
  /-- The working directory, where relative paths start. -/
  home : Place
  /-- What stands on the disk, apart from the working directory and the directories above it. -/
  nodes : List (Place × Node)
  /-- What becomes of the coming operations. -/
  refusals : List (Option Refusal)

namespace Disk

/-- A disk with nothing on it but a working directory. -/
def empty (home : Place) : Disk := ⟨home, [], []⟩

def node? (disk : Disk) (place : Place) : Option Node :=
  if place.isPrefixOf disk.home then some .directory else disk.nodes.lookup place

theorem lookup_filter_of_ne {place other : Place} (h : other ≠ place)
    (nodes : List (Place × Node)) :
    (nodes.filter fun entry => entry.1 ≠ place).lookup other = nodes.lookup other := by
  induction nodes with
  | nil => rfl
  | cons entry rest ih => grind

def insert (disk : Disk) (place : Place) (node : Node) : Disk :=
  { disk with nodes := (place, node) :: disk.nodes.filter fun entry => entry.1 ≠ place }

/-- Empty a place. -/
def erase (disk : Disk) (place : Place) : Disk :=
  { disk with nodes := disk.nodes.filter fun entry => entry.1 ≠ place }

theorem node?_insert_self (disk : Disk) {place : Place} (node : Node)
    (h : place.isPrefixOf disk.home = false) : (disk.insert place node).node? place = some node := by
  simp [node?, insert, h]

theorem node?_insert_of_ne (disk : Disk) {place other : Place} (node : Node) (h : other ≠ place) :
    (disk.insert place node).node? other = disk.node? other := by
  simp only [node?, insert, List.lookup_cons, beq_eq_false_iff_ne.2 h, lookup_filter_of_ne h]

theorem node?_erase_of_ne (disk : Disk) {place other : Place} (h : other ≠ place) :
    (disk.erase place).node? other = disk.node? other := by
  simp only [node?, erase, lookup_filter_of_ne h]

/-! ## Following paths -/

/-- The most bytes that a name may have. -/
def maxName : Nat := 255

/-- The most bytes that a path may have. -/
def maxPath : Nat := 4095

/-- Where a path leads. -/
structure Target where
  place : Place
  /-- Whether the path is written so that only a directory can be there. -/
  asDirectory : Bool
  /-- Whether the path ends with a name, and not with dots. -/
  isNamed : Bool
  deriving Repr, DecidableEq

/-- Follow names from a directory. All but the last have to be directories. -/
def follow (disk : Disk) (here : Place) : List String → Except FileFault Target
  | [] => .ok ⟨here, true, false⟩
  | name :: rest =>
    if name = "" then follow disk here rest
    else if name = "." then follow disk here rest
    else if name = ".." then follow disk here.dropLast rest
    else if name.utf8ByteSize > maxName then .error .nameTooLong
    else if rest.all (· = "") then .ok ⟨here ++ [name], !rest.isEmpty, true⟩
    else
      match disk.node? (here ++ [name]) with
      | some .directory => follow disk (here ++ [name]) rest
      | some (.file _) => .error .notDirectory
      | none => .error .missing

/-- Where a path leads. -/
def target (disk : Disk) (path : Path) : Except FileFault Target :=
  if path.text.toList.contains '\x00' then .error .invalidName
  else if path.text = "" then .error .missing
  else if path.text.utf8ByteSize > maxPath then .error .nameTooLong
  else disk.follow (if path.isAbsolute then [] else disk.home) path.segments

/-- What stands where a path leads. -/
def find (disk : Disk) (path : Path) : Except FileFault Node := do
  let target ← disk.target path
  match disk.node? target.place with
  | none => .error .missing
  | some .directory => return .directory
  | some (.file content) =>
    if target.asDirectory then .error .notDirectory else return .file content

def hasFile (disk : Disk) (path : Path) : Bool :=
  match disk.find path with
  | .ok (.file _) => true
  | _ => false

def hasDirectory (disk : Disk) (path : Path) : Bool :=
  match disk.find path with
  | .ok .directory => true
  | _ => false

/-! ## Operations -/

def text (disk : Disk) (path : Path) : Except FileFault String := do
  match ← disk.find path with
  | .directory => .error .isDirectory
  | .file content =>
    match String.fromUTF8? content with
    | some text => return text
    | none => .error .notText

def makeDir (disk : Disk) (path : Path) : Except FileFault Disk := do
  let target ← disk.target path
  match disk.node? target.place with
  | some _ => .error .alreadyExists
  | none => return disk.insert target.place .directory

/-- Make a directory, and take one that is there already for made. -/
def ensureDir (disk : Disk) (path : Path) : Except FileFault Disk :=
  match disk.makeDir path with
  | .ok disk => .ok disk
  | .error fault => if disk.hasDirectory path then .ok disk else .error fault

/-- Make the first directory of a lineage, after those above it if they are missing. Directories that
    were made above one that cannot be made stay. -/
def makeLineage (disk : Disk) : List Path → Except FileFault Unit × Disk
  | [] => (.ok (), disk)
  | path :: above =>
    match disk.ensureDir path with
    | .ok disk => (.ok (), disk)
    | .error .missing =>
      match disk.makeLineage above with
      | (.error fault, disk) => (.error fault, disk)
      | (.ok (), disk) =>
        match disk.ensureDir path with
        | .ok disk => (.ok (), disk)
        | .error fault => (.error fault, disk)
    | .error fault => (.error fault, disk)

/-- Make a directory and those above it, as far as they are missing. -/
def makeDirs (disk : Disk) (path : Path) : Except FileFault Unit × Disk :=
  disk.makeLineage path.lineage

/-- The place of a file that is opened for writing, and its present content. -/
def openFile (disk : Disk) (path : Path) : Except FileFault (Place × ByteArray) := do
  let target ← disk.target path
  if target.asDirectory then .error .isDirectory
  match disk.node? target.place with
  | some .directory => .error .isDirectory
  | some (.file content) => return (target.place, content)
  | none => return (target.place, .empty)

def write (disk : Disk) (path : Path) (bytes : ByteArray) : Except FileFault Disk := do
  let (place, _) ← disk.openFile path
  return disk.insert place (.file bytes)

def append (disk : Disk) (path : Path) (bytes : ByteArray) : Except FileFault Disk := do
  let (place, content) ← disk.openFile path
  return disk.insert place (.file (content ++ bytes))

def move (disk : Disk) (source destination : Path) : Except FileFault Disk := do
  let source ← disk.target source
  let destination ← disk.target destination
  if !source.isNamed || !destination.isNamed then .error .busy
  match disk.node? source.place with
  | none => .error .missing
  | some .directory => .error .isDirectory
  | some (.file content) =>
    if source.asDirectory || destination.asDirectory then .error .notDirectory
    match disk.node? destination.place with
    | some .directory => .error .isDirectory
    | _ => return (disk.erase source.place).insert destination.place (.file content)

def remove (disk : Disk) (path : Path) : Except FileFault Disk := do
  let target ← disk.target path
  match disk.node? target.place with
  | none => .error .missing
  | some .directory => .error .isDirectory
  | some (.file _) =>
    if target.asDirectory then .error .notDirectory else return disk.erase target.place

/-! ## Views -/

/-- The files below the working directory with their paths, in ascending order. -/
def files (disk : Disk) : List (String × ByteArray) :=
  let found := disk.nodes.filterMap fun
    | (place, .file content) =>
      if disk.home.isPrefixOf place then
        some (Text.joinWith "/" (place.drop disk.home.length), content)
      else none
    | (_, .directory) => none
  (Text.ordered (found.map Prod.fst)).filterMap fun path => (found.lookup path).map (path, ·)

/-! ## Disks as file systems -/

/-- What is foreseen for the next operation. -/
def nextRefusal : StateM Disk (Option Refusal) := fun disk =>
  match disk.refusals with
  | [] => (none, disk)
  | refusal :: rest => (refusal, { disk with refusals := rest })

/-- Answer a question about the disk, unless it is refused. -/
def ask {α : Type} (question : Disk → Except FileFault α) : ExceptT FileFault (StateM Disk) α := do
  match ← nextRefusal with
  | some refusal => throw refusal.fault
  | none => ExceptT.mk fun disk => (question disk, disk)

/-- Answer a question with yes or no. The answer is no if the question is refused. -/
def askWhether (question : Disk → Bool) : StateM Disk Bool := do
  match ← nextRefusal with
  | some _ => return false
  | none => fun disk => (question disk, disk)

/-- The result of a change, and the disk after it. A change that is not possible changes nothing. -/
def settle (disk : Disk) : Except FileFault Disk → Except FileFault Unit × Disk
  | .ok changed => (.ok (), changed)
  | .error fault => (.error fault, disk)

/-- Change the disk, unless the change is refused. -/
def change (change : Disk → Except FileFault Unit × Disk) : ExceptT FileFault (StateM Disk) Unit := do
  match ← nextRefusal with
  | some refusal => throw refusal.fault
  | none => ExceptT.mk change

/-- Write bytes in some way. If that is refused, a part of them may be written all the same. -/
def changeBytes (write : ByteArray → Disk → Except FileFault Disk) (bytes : ByteArray) :
    ExceptT FileFault (StateM Disk) Unit := do
  match ← nextRefusal with
  | none => ExceptT.mk fun disk => disk.settle (write bytes disk)
  | some refusal =>
    match refusal.written with
    | none => throw refusal.fault
    | some count => do
      ExceptT.mk fun disk => disk.settle (write (bytes.extract 0 count) disk)
      throw refusal.fault

instance : FileSystem (StateM Disk) where
  readText path := ask fun disk => disk.text path
  isFile path := askWhether fun disk => disk.hasFile path
  isPresent path := askWhether fun disk => (disk.find path).toBool
  makeDirs path := change fun disk => disk.makeDirs path
  writeText path text := changeBytes (fun bytes disk => disk.write path bytes) text.toUTF8
  appendText path text := changeBytes (fun bytes disk => disk.append path bytes) text.toUTF8
  rename source destination := change fun disk => disk.settle (disk.move source destination)
  removeFile path := change fun disk => disk.settle (disk.remove path)

end Disk

end KotlinFakes
