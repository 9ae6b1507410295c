import KotlinFakes.Diagnostic.Queue
import KotlinFakes.Fake.File
import KotlinFakes.Signature.Basic
import KotlinFakes.Store.Entries
import KotlinFakes.Subject.Analysis

/-!
# Listing signatures

The digests of a list of subjects, one per line in the form of a signature store. Subjects that
cannot be analysed have no line and are reported instead.
-/

namespace KotlinFakes

namespace Subject

/-- The line of a subject, if it can be analysed, and what there is to report about it. -/
def listed (options : FileOptions) (s : Subject) : String × List Diagnostic :=
  match s.analyze with
  | .ok analysis =>
    let signature := Signature.compute generatorVersion options.fingerprint analysis.blueprint
    (Entries.line analysis.blueprint.id signature.digest, analysis.warnings)
  | .error r => ("", [r.diagnostic])

end Subject

namespace Signature

def listing (options : FileOptions) (subjects : List Subject) : String :=
  String.join (subjects.map fun s => (s.listed options).1)

/-- What there is to report about a list of subjects. -/
def listingReports (options : FileOptions) (subjects : List Subject) : DiagnosticQueue :=
  DiagnosticQueue.empty.addAll (subjects.flatMap fun s => (s.listed options).2)

end Signature

end KotlinFakes
