import KotlinFakes.Diagnostic.Basic
import KotlinFakes.Fake.File
import KotlinFakes.Files.Fault
import KotlinFakes.Subject.Rejection

/-!
# Reports of a pass

What became of each declaration in a pass, and when the pass as a whole counts as failed. A failed
declaration does not keep the others from being generated.
-/

namespace KotlinFakes.Pass

/-- Why there is no fake of a declaration. -/
inductive Failure where
  | rejected (rejection : Rejection)
  | unrenderable (error : RenderError)
  | unwritable (path : Path) (fault : FileFault)
  deriving Repr, DecidableEq

namespace Failure

def code : Failure → Code
  | .rejected rejection => rejection.code
  | .unrenderable _ | .unwritable .. => .generationFailed

def message : Failure → String
  | .rejected rejection => rejection.message
  | .unrenderable error => error.message
  | .unwritable path fault => "cannot write `" ++ path.text ++ "`: " ++ fault.message

def diagnostic (declaration : String) (failure : Failure) : Diagnostic :=
  match failure with
  | .rejected rejection => rejection.diagnostic
  | .unrenderable _ | .unwritable .. =>
    { code := failure.code
      severity := .error
      message := failure.message
      declaration := some declaration
      notes := ["no partial output was written for this declaration"] }

end Failure

/-- What became of a declaration. -/
inductive Outcome where
  /-- Its file was written. -/
  | generated (path : Path)
  /-- Its file was there, and nothing had changed. -/
  | upToDate (path : Path)
  /-- It cannot be faked and was passed over. -/
  | skipped (reason : String)
  | failed (failure : Failure)
  deriving Repr, DecidableEq

namespace Outcome

/-- Whether a file was written. -/
def isGenerated : Outcome → Bool
  | .generated _ => true
  | _ => false

/-- Whether nothing had changed. -/
def isUpToDate : Outcome → Bool
  | .upToDate _ => true
  | _ => false

/-- Whether the declaration was passed over. -/
def isSkipped : Outcome → Bool
  | .skipped _ => true
  | _ => false

def isFailed : Outcome → Bool
  | .failed _ => true
  | _ => false

end Outcome

/-- Why a pass as a whole failed. -/
inductive Error where
  /-- There is no directory to write a declaration to. -/
  | noOutput (declaration reason : String)
  /-- Some declarations failed. -/
  | declarationsFailed (failed : List String) (total : Nat)
  deriving Repr, DecidableEq

namespace Error

def message : Error → String
  | .noOutput declaration reason =>
    "cannot resolve the output directory for `" ++ declaration ++ "`: " ++ reason
  | .declarationsFailed failed total =>
    toString failed.length ++ " of " ++ toString total ++ " declaration(s) failed: " ++
      Text.joinWith ", " failed

def diagnostic (e : Error) : Diagnostic :=
  match e with
  | .noOutput declaration _ =>
    { code := .outputUnavailable
      severity := .error
      message := e.message
      declaration := some declaration
      notes := ["the generation pass was aborted; no files were written"] }
  | .declarationsFailed .. =>
    { code := .generationFailed
      severity := .error
      message := e.message
      declaration := none
      notes := [] }

end Error

/-- The outcomes of a pass by declaration, in order. -/
structure Report where
  outcomes : List (String × Outcome)
  deriving Repr, DecidableEq

namespace Report

/-- How many outcomes are of some kind. -/
def count (report : Report) (kind : Outcome → Bool) : Nat :=
  report.outcomes.countP fun entry => kind entry.2

def outcome? (report : Report) (declaration : String) : Option Outcome :=
  report.outcomes.lookup declaration

def failed (report : Report) : List String :=
  (report.outcomes.filter fun entry => entry.2.isFailed).map Prod.fst

/-- The error of the pass, if a declaration failed. -/
def error? (report : Report) : Option Error :=
  if report.failed.isEmpty then none
  else some (.declarationsFailed report.failed report.outcomes.length)

/-- The counts of the outcomes in words. -/
def summary (report : Report) : String :=
  toString (report.count Outcome.isGenerated) ++ " generated, " ++
    toString (report.count Outcome.isUpToDate) ++ " up to date, " ++
    toString (report.count Outcome.isSkipped) ++ " skipped, " ++
    toString (report.count Outcome.isFailed) ++ " failed"

end Report

end KotlinFakes.Pass
