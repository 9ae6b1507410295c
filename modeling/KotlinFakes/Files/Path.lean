import KotlinFakes.Text.Split

/-!
# Paths

Paths with a slash between their segments, kept as they were written. A segment of one dot stays
where it is, one of two dots goes up, and an empty one counts for nothing.
-/

namespace KotlinFakes

/-- A path as it is written. -/
structure Path where
  text : String
  deriving Repr, DecidableEq

namespace Path

/-- Whether the path starts at the root. -/
def isAbsolute (p : Path) : Bool := p.text.toList.head? = some '/'

/-- Append a segment to a path. An absolute segment replaces the path. -/
def join (p : Path) (segment : String) : Path :=
  if (Path.mk segment).isAbsolute then ⟨segment⟩
  else if p.text = "" || p.text.toList.getLast? = some '/' then ⟨p.text ++ segment⟩
  else ⟨p.text ++ "/" ++ segment⟩

def joinAll (p : Path) (segments : List String) : Path := segments.foldl join p

/-- The path with a text appended to its last segment. -/
def extended (p : Path) (suffix : String) : Path := ⟨p.text ++ suffix⟩

/-- The path beside a path under which its new content is prepared. -/
def draft (p : Path) : Path := p.extended ".tmp"

/-- The segments of a path as they are written, with the empty ones. -/
def segments (p : Path) : List String := (Text.pieces '/' p.text.toList).map String.ofList

/-- Whether a segment counts for nothing. -/
def isIdle (segment : String) : Bool := segment = "" || segment = "."

def withoutIdleEnd (segments : List String) : List String :=
  (segments.reverse.dropWhile isIdle).reverse

/-- The first segment where it says something: the empty one before the root, or a single dot. The
    other segments follow it. -/
def splitStart : List String → Option String × List String
  | "" :: rest => if rest.isEmpty then (none, []) else (some "", rest)
  | "." :: rest => (some ".", rest)
  | segments => (none, segments)

def ofSegments (start : Option String) (segments : List String) : Path :=
  match start, segments with
  | none, segments => ⟨Text.joinWith "/" segments⟩
  | some "", [] => ⟨"/"⟩
  | some start, segments => ⟨Text.joinWith "/" (start :: segments)⟩

/-- The path without its last segment that is not idle. The root and the empty path have none. -/
def parent? (p : Path) : Option Path :=
  let (start, rest) := splitStart p.segments
  match withoutIdleEnd rest, start with
  | [], some "." => some ⟨""⟩
  | [], _ => none
  | segments, start => some (ofSegments start (withoutIdleEnd segments.dropLast))

/-- The path and the paths above it, nearest first and without the empty path, at most `count` of
    them. -/
def upward : (count : Nat) → Path → List Path
  | 0, _ => []
  | count + 1, p =>
    if p.text = "" then []
    else
      match p.parent? with
      | some parent => p :: upward count parent
      | none => [p]

/-- The path and the paths above it, nearest first and without the empty path. Each is shorter than
    the one before it. -/
def lineage (p : Path) : List Path := p.upward (p.text.length + 1)

end Path

end KotlinFakes
