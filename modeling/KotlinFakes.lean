import KotlinFakes.Files.Disk
import KotlinFakes.Main
import KotlinFakes.Proofs.Names
import KotlinFakes.Proofs.WellNamed
import KotlinFakes.Proofs.Signature.Types
import KotlinFakes.Proofs.Signature.Members
import KotlinFakes.Proofs.Signature.Blueprint
import KotlinFakes.Proofs.Slot.Names
import KotlinFakes.Proofs.Slot.Requests
import KotlinFakes.Proofs.Pass.History
import KotlinFakes.Proofs.TypeText.Scanning
import KotlinFakes.Proofs.TypeText.Reading
import KotlinFakes.Proofs.TypeText.RoundTrip
import KotlinFakes.Proofs.TypeText.Acceptance
import KotlinFakes.Proofs.Imports.Contest
import KotlinFakes.Proofs.Imports.Resolution
import KotlinFakes.Proofs.Written.Outline
import KotlinFakes.Proofs.Written.Reading
import KotlinFakes.Proofs.Written.Legible
import KotlinFakes.Proofs.Imports.Capture
import KotlinFakes.Proofs.Callees.Default
import KotlinFakes.Proofs.Callees.Capture
import KotlinFakes.Proofs.Ty.Erasure
import KotlinFakes.Proofs.Ty.Composition
import KotlinFakes.Proofs.Fake.Scope
import KotlinFakes.Proofs.Fake.Storage
import KotlinFakes.Proofs.Diagnostic.Queue
import KotlinFakes.Proofs.Files.Directories
import KotlinFakes.Proofs.Pass.Reports
import KotlinFakes.Proofs.Pass.Account
import KotlinFakes.Proofs.Files.Lineage
import KotlinFakes.Proofs.Files.Descent
import KotlinFakes.Proofs.Files.Deposit
import KotlinFakes.Proofs.Files.Repeat
import KotlinFakes.Proofs.Files.Shape
import KotlinFakes.Proofs.Pass.Attempt
import KotlinFakes.Proofs.Pass.Independence
import KotlinFakes.Proofs.Text.Trimming
import KotlinFakes.Proofs.Store.Reload
import KotlinFakes.Proofs.Store.LastLine
import KotlinFakes.Proofs.Store.Appending
import KotlinFakes.Proofs.Subject.Coverage
import KotlinFakes.Proofs.Files.Draft
import KotlinFakes.Proofs.Pass.Again
import KotlinFakes.Proofs.Fake.Methods
import KotlinFakes.Proofs.Default.Safety
import KotlinFakes.Proofs.Default.Conformance
import KotlinFakes.Proofs.Fake.Delegation
import KotlinFakes.Proofs.Ty.Renaming
import KotlinFakes.Proofs.Fake.Overrides
import KotlinFakes.Proofs.Files.Containment
import KotlinFakes.Proofs.Pass.Listing
import KotlinFakes.Proofs.Store.Course
import KotlinFakes.Proofs.Fake.Keywords
import KotlinFakes.Proofs.Default.Arguments
import KotlinFakes.Proofs.Default.Synthesis
import KotlinFakes.Proofs.Default.Flows
import KotlinFakes.Proofs.Imports.Defaults
import KotlinFakes.Proofs.Fake.Shadowing
import KotlinFakes.Proofs.Subject.Exclusion
import KotlinFakes.Proofs.Subject.Unused
import KotlinFakes.Proofs.Subject.Identity
import KotlinFakes.Proofs.Slot.Spelling
import KotlinFakes.Proofs.Diagnostic.Arrival
import KotlinFakes.Proofs.Diagnostic.Calls
import KotlinFakes.Proofs.Manifest.Resolution
import KotlinFakes.Proofs.CommandLine.Reordering
import KotlinFakes.Proofs.CommandLine.Values
import KotlinFakes.Proofs.Subject.Marks
import KotlinFakes.Proofs.Text.Quoted
import KotlinFakes.Proofs.QualifiedName
import KotlinFakes.Proofs.Fake.Fragments
