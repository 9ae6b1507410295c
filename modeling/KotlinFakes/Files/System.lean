import KotlinFakes.Files.Fault
import KotlinFakes.Files.Path

/-!
# File systems

What the program asks of a file system, and how it replaces a file: the new content is prepared in a
draft beside the file, which is then renamed, so that no reader ever sees half of it.
-/

namespace KotlinFakes

/-- A monad in which files can be read and written. -/
class FileSystem (m : Type → Type) where
  /-- The text of a file. -/
  readText : Path → ExceptT FileFault m String
  /-- Whether there is a file at a path. -/
  isFile : Path → m Bool
  /-- Whether there is anything at a path. -/
  isPresent : Path → m Bool
  /-- Make a directory and those above it, as far as they are missing. -/
  makeDirs : Path → ExceptT FileFault m Unit
  /-- Make a text the content of a file. -/
  writeText : Path → String → ExceptT FileFault m Unit
  /-- Append a text to a file, which is made if it is missing. -/
  appendText : Path → String → ExceptT FileFault m Unit
  /-- Move a file to another path, in place of the file there. -/
  rename : Path → Path → ExceptT FileFault m Unit
  /-- Remove a file. -/
  removeFile : Path → ExceptT FileFault m Unit

namespace FileSystem

variable {m : Type → Type} [Monad m] [FileSystem m]

def makeParent (path : Path) : ExceptT FileFault m Unit :=
  match path.parent? with
  | some parent => if parent.text = "" then pure () else makeDirs parent
  | none => pure ()

/-- Replace a file by way of its draft. A draft that cannot be renamed stays. -/
def replaceText (path : Path) (text : String) : ExceptT FileFault m Unit := do
  makeParent path
  writeText path.draft text
  rename path.draft path

/-- Replace a file by way of its draft. A draft that cannot be renamed is removed. -/
def replaceCleanly (path : Path) (text : String) : ExceptT FileFault m Unit := do
  makeParent path
  writeText path.draft text
  tryCatch (rename path.draft path) fun fault => do
    tryCatch (removeFile path.draft) fun _ => pure ()
    throw fault

end FileSystem

end KotlinFakes
