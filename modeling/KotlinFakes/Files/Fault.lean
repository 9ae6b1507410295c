/-!
# File faults

Why an operation on files fails, with the words in which the system reports it.
-/

namespace KotlinFakes

/-- Why an operation on files fails. -/
inductive FileFault where
  /-- There is nothing at the path. -/
  | missing
  /-- A file stands where a directory is needed. -/
  | notDirectory
  /-- A directory stands where a file is needed. -/
  | isDirectory
  /-- Something stands at the path already. -/
  | alreadyExists
  /-- The path leads to a directory by way of itself, which cannot be replaced. -/
  | busy
  /-- A segment of the path or the whole path is too long. -/
  | nameTooLong
  /-- The path holds a character that no path can have. -/
  | invalidName
  /-- The content is not text. -/
  | notText
  /-- Any other reason, in the words of the system. -/
  | other (description : String)
  deriving Repr, DecidableEq

def FileFault.message : FileFault → String
  | .missing => "No such file or directory (os error 2)"
  | .notDirectory => "Not a directory (os error 20)"
  | .isDirectory => "Is a directory (os error 21)"
  | .alreadyExists => "File exists (os error 17)"
  | .busy => "Device or resource busy (os error 16)"
  | .nameTooLong => "File name too long (os error 36)"
  | .invalidName => "file name contained an unexpected NUL byte"
  | .notText => "stream did not contain valid UTF-8"
  | .other description => description

end KotlinFakes
