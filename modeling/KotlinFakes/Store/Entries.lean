import KotlinFakes.Text.Blank
import KotlinFakes.Text.Split

/-!
# Entries of a signature store

The digest that each declaration had when its fake was last written, in ascending order of the
declarations. As a text there is one entry per line; of two lines about one declaration the later
one counts, and lines that are no entries are passed over.
-/

namespace KotlinFakes

/-- Digests by declaration. -/
structure Entries where
  toList : List (String × String)
  deriving Repr, DecidableEq

namespace Entries

def empty : Entries := ⟨[]⟩

/-- Put an entry into an ascending list, in place of the one that is there for the declaration. -/
def insertInto (id digest : String) : List (String × String) → List (String × String)
  | [] => [(id, digest)]
  | (other, old) :: rest =>
    if id < other then (id, digest) :: (other, old) :: rest
    else if id = other then (id, digest) :: rest
    else (other, old) :: insertInto id digest rest

def insert (entries : Entries) (id digest : String) : Entries :=
  ⟨insertInto id digest entries.toList⟩

/-- The digest of a declaration. -/
def get? (entries : Entries) (id : String) : Option String := entries.toList.lookup id

theorem lookup_insertInto (id digest other : String) (entries : List (String × String)) :
    (insertInto id digest entries).lookup other =
      if other = id then some digest else entries.lookup other := by
  induction entries with
  | nil => grind [insertInto]
  | cons entry rest ih => grind [insertInto]

/-- Recording a digest changes the digest of one declaration only. -/
theorem get?_insert (entries : Entries) (id digest other : String) :
    (entries.insert id digest).get? other =
      if other = id then some digest else entries.get? other :=
  lookup_insertInto id digest other entries.toList

def size (entries : Entries) : Nat := entries.toList.length

/-- The first line of the text. -/
def header : String := "# Fakt structural signatures: <declaration>=<sha256>"

def line (id digest : String) : String := id ++ "=" ++ digest ++ "\n"

/-- The entries as a text below the header. -/
def render (entries : Entries) : String :=
  header ++ "\n" ++ String.join (entries.toList.map fun entry => line entry.1 entry.2)

/-- The entry on a line, if there is one. -/
def readLine? (text : List Char) : Option (String × String) :=
  match Text.trim text with
  | [] => none
  | '#' :: _ => none
  | trimmed =>
    match Text.cut '=' trimmed with
    | none => none
    | some (before, after) =>
      match Text.trim before, Text.trim after with
      | [], _ | _, [] => none
      | id, digest => some (String.ofList id, String.ofList digest)

/-- Record what a line says, if it says anything. -/
def addLine (entries : Entries) (text : List Char) : Entries :=
  match readLine? text with
  | some (id, digest) => entries.insert id digest
  | none => entries

def parse (text : String) : Entries := (Text.pieces '\n' text.toList).foldl addLine empty

end Entries

end KotlinFakes
