import KotlinFakes.CommandLine.Run

/-!
# The program

The command line on the files of the machine. Nothing is decided here: operations on files are handed
to the system, and the reply of the command is printed.
-/

namespace KotlinFakes.Machine

/-- The code and the words under which an error is reported. -/
def reported? : IO.Error → Option (UInt32 × String)
  | .alreadyExists _ code words | .inappropriateType _ code words | .noSuchThing _ code words
  | .invalidArgument _ code words | .permissionDenied _ code words
  | .resourceExhausted _ code words => some (code, words)
  | .noFileOrDirectory _ code words | .interrupted _ code words => some (code, words)
  | .otherError code words | .resourceBusy code words | .resourceVanished code words
  | .unsupportedOperation code words | .hardwareFault code words
  | .unsatisfiedConstraints code words | .illegalOperation code words
  | .protocolError code words | .timeExpired code words => some (code, words)
  | .unexpectedEof | .userError _ => none

/-- The number of an error in the system. Some codes are that number, and others its negation. -/
def number (code : UInt32) : UInt32 := if code < 0x80000000 then code else 0 - code

/-- The fault that an error stands for. -/
def fault (e : IO.Error) : FileFault :=
  match reported? e with
  | none => .other (toString e)
  | some (code, words) =>
    match number code with
    | 2 => .missing
    | 16 => .busy
    | 17 => .alreadyExists
    | 20 => .notDirectory
    | 21 => .isDirectory
    | 36 => .nameTooLong
    | n => .other (words.capitalize ++ " (os error " ++ toString n ++ ")")

def attempt {α : Type} (path : Path) (action : IO α) : IO (Except FileFault α) := do
  if path.text.toList.contains '\x00' then return .error .invalidName
  try
    let result ← action
    return .ok result
  catch e => return .error (fault e)

def isDirectory (path : Path) : IO Bool := (System.mkFilePath [path.text]).isDir

def readText (path : Path) : IO (Except FileFault String) := do
  match ← attempt path (IO.FS.readBinFile path.text) with
  | .error e => return .error e
  | .ok content =>
    match String.fromUTF8? content with
    | some text => return .ok text
    | none => return .error .notText

/-- Make the first directory of a lineage, after those above it if they are missing. -/
def makeLineage : List Path → IO (Except FileFault Unit)
  | [] => return .ok ()
  | path :: above => do
    let make := attempt path (IO.FS.createDir path.text)
    let unlessThere (e : FileFault) : IO (Except FileFault Unit) := do
      if ← isDirectory path then return .ok () else return .error e
    match ← make with
    | .ok () => return .ok ()
    | .error .missing =>
      match ← makeLineage above with
      | .error e => return .error e
      | .ok () =>
        match ← make with
        | .ok () => return .ok ()
        | .error e => unlessThere e
    | .error e => unlessThere e

def appendText (path : Path) (text : String) : IO (Except FileFault Unit) :=
  attempt path (IO.FS.withFile path.text .append fun handle => handle.putStr text)

instance : FileSystem IO where
  readText path := ExceptT.mk (readText path)
  isFile path := do
    match ← attempt path (System.mkFilePath [path.text]).metadata with
    | .ok data => return (data.type matches .file)
    | .error _ => return false
  isPresent path := do
    match ← attempt path (System.mkFilePath [path.text]).metadata with
    | .ok _ => return true
    | .error _ => return false
  makeDirs path := ExceptT.mk (makeLineage path.lineage)
  writeText path text :=
    ExceptT.mk (attempt path (IO.FS.writeBinFile path.text text.toUTF8))
  appendText path text := ExceptT.mk (appendText path text)
  rename source destination :=
    ExceptT.mk (attempt destination (IO.FS.rename source.text destination.text))
  removeFile path := ExceptT.mk (attempt path (IO.FS.removeFile path.text))

end KotlinFakes.Machine

/-- Run the program: results go to standard output, and everything else to standard error. -/
def main (arguments : List String) : IO UInt32 := do
  let onTerminal ← (← IO.getStderr).isTty
  let reply ← (KotlinFakes.CommandLine.run onTerminal arguments : IO KotlinFakes.CommandLine.Reply)
  IO.print reply.output
  IO.eprint reply.errors
  return if reply.isSuccess then 0 else 1
