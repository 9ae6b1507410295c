/-!
# Layout

Indented text. A fragment is a list of blocks; laying it out gives the steps of a writer that keeps
track of the indentation. A block opens with a header and closes with a brace, so the braces of a
fragment balance by construction.
-/

namespace KotlinFakes.Layout

/-- What a writer can be told. -/
inductive Step where
  /-- Write the indentation, a text and a line feed. -/
  | line (text : String)
  /-- Write a line feed. -/
  | blank
  /-- Write the indentation. -/
  | margin
  /-- Indent one level more. -/
  | enter
  /-- Indent one level less. -/
  | leave
  deriving Repr, DecidableEq

/-- A writer at a level of indentation, with what it has written. -/
structure Writer where
  level : Nat
  output : String
  deriving Repr, DecidableEq

namespace Writer

/-- A writer at level zero that has written nothing. -/
def start : Writer := ⟨0, ""⟩

/-- The indentation of a level. -/
def marginOf (level : Nat) : String := String.join (List.replicate level "    ")

/-- Do one step. Leaving level zero has no effect. -/
def step (w : Writer) : Step → Writer
  | .line text => { w with output := w.output ++ marginOf w.level ++ text ++ "\n" }
  | .blank => { w with output := w.output ++ "\n" }
  | .margin => { w with output := w.output ++ marginOf w.level }
  | .enter => { w with level := w.level + 1 }
  | .leave => { w with level := w.level - 1 }

def run (w : Writer) (steps : List Step) : Writer := steps.foldl step w

end Writer

def openSteps (header : String) : List Step := [.line (header ++ " \x7b"), .enter]

def closeSteps : List Step := [.leave, .line "\x7d"]

/-- A piece of a fragment. -/
inductive Block where
  | line (text : String)
  | blank
  /-- A header, an indented body between braces. -/
  | block (header : String) (body : List Block)
  /-- An indented body without braces. -/
  | nested (body : List Block)
  deriving Repr

namespace Block

mutual
def steps : Block → List Step
  | .line text => [.line text]
  | .blank => [.blank]
  | .block header body => openSteps header ++ stepsAll body ++ closeSteps
  | .nested body => .enter :: stepsAll body ++ [.leave]
def stepsAll : List Block → List Step
  | [] => []
  | b :: bs => b.steps ++ stepsAll bs
end

def text (blocks : List Block) : String := (Writer.start.run (stepsAll blocks)).output

/-- Groups of blocks with an empty line between each two of them. -/
def spaced : List (List Block) → List Block
  | [] => []
  | [group] => group
  | group :: next :: rest => group ++ .blank :: spaced (next :: rest)

end Block

end KotlinFakes.Layout
