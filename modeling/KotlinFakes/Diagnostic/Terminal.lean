import KotlinFakes.Diagnostic.Basic
import KotlinFakes.Text.Split

/-!
# Diagnostics on a terminal

The text in which reports are shown to a user, with or without colours, and the summary line below
them.
-/

namespace KotlinFakes.Terminal

/-- When colours are used. -/
inductive ColorMode where
  /-- On a terminal only. -/
  | auto
  | always
  | never
  deriving Repr, DecidableEq

/-- Whether a mode uses colours on the given kind of stream. -/
def ColorMode.isColored (mode : ColorMode) (isTerminal : Bool) : Bool :=
  match mode with
  | .auto => isTerminal
  | .always => true
  | .never => false

/-- A style of the terminal. -/
inductive Style where
  | red
  | yellow
  | cyan
  | blue
  | bold
  deriving Repr, DecidableEq

/-- The control sequence that switches a style on. -/
def Style.start : Style → String
  | .red => "\x1b[1;31m"
  | .yellow => "\x1b[1;33m"
  | .cyan => "\x1b[1;36m"
  | .blue => "\x1b[1;34m"
  | .bold => "\x1b[1m"

/-- A text in a style, if colours are used. -/
def paint (isColored : Bool) (style : Style) (text : String) : String :=
  if isColored then style.start ++ text ++ "\x1b[0m" else text

def severityStyle : Severity → Style
  | .error => .red
  | .warning => .yellow
  | .note => .cyan

/-- One report on several lines, with an empty line after it. -/
def report (isColored : Bool) (d : Diagnostic) : String :=
  let bar := "   " ++ paint isColored .blue "=" ++ " "
  paint isColored (severityStyle d.severity) (d.severity.text ++ "[" ++ d.code.text ++ "]") ++
    ": " ++ paint isColored .bold d.code.title ++ "\n" ++
    (match d.declaration with
      | some declaration => "  " ++ paint isColored .blue "-->" ++ " " ++ declaration ++ "\n"
      | none => "") ++
    (if d.message = "" then "" else bar ++ d.message ++ "\n") ++
    String.join (d.notes.map fun note => bar ++ "note: " ++ note ++ "\n") ++
    "\n"

/-- A count with its noun in the right number. -/
def counted (n : Nat) (noun : String) : String :=
  toString n ++ " " ++ noun ++ if n = 1 then "" else "s"

/-- The summary of errors and warnings, or nothing if there are none. -/
def summary (isColored : Bool) (ds : List Diagnostic) : String :=
  let errors := ds.countP Diagnostic.isError
  let warnings := ds.countP Diagnostic.isWarning
  let parts :=
    (if errors = 0 then [] else [paint isColored .red (counted errors "error")]) ++
      (if warnings = 0 then [] else [paint isColored .yellow (counted warnings "warning")])
  if parts.isEmpty then "" else Text.joinWith ", " parts ++ "\n"

def render (isColored : Bool) (ds : List Diagnostic) : String :=
  String.join (ds.map (report isColored)) ++ summary isColored ds

end KotlinFakes.Terminal
