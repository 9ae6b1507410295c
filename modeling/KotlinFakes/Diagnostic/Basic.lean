import KotlinFakes.Diagnostic.Code

/-!
# Diagnostics

What the generator has to report about one declaration, or about a whole pass, and the order in
which reports are shown.
-/

namespace KotlinFakes

/-- How grave a report is. -/
inductive Severity where
  | error
  | warning
  | note
  deriving Repr, DecidableEq

namespace Severity

/-- The gravest come first. -/
def rank : Severity → Nat
  | error => 0
  | warning => 1
  | note => 2

def text : Severity → String
  | error => "error"
  | warning => "warning"
  | note => "note"

end Severity

/-- A report; one without a declaration is about the whole pass. -/
structure Diagnostic where
  code : Code
  severity : Severity
  message : String
  declaration : Option String
  notes : List String
  deriving Repr, DecidableEq

namespace Diagnostic

def isError (d : Diagnostic) : Bool := d.severity = .error

def isWarning (d : Diagnostic) : Bool := d.severity = .warning

def text (d : Diagnostic) : String :=
  d.severity.text ++ "[" ++ d.code.text ++ "]: " ++
    (match d.declaration with
      | some declaration => declaration ++ ": "
      | none => "") ++
    d.message

/-- Declarations in ascending order, none before any. -/
def compareDeclaration : Option String → Option String → Ordering
  | none, none => .eq
  | none, some _ => .lt
  | some _, none => .gt
  | some a, some b => compare a b

/-- The order of reports: by declaration, severity, code and message. -/
def order (a b : Diagnostic) : Ordering :=
  (compareDeclaration a.declaration b.declaration).then <|
    (compare a.severity.rank b.severity.rank).then <|
      (compare a.code.rank b.code.rank).then (compare a.message b.message)

end Diagnostic

end KotlinFakes
