import KotlinFakes.CommandLine.Options
import KotlinFakes.CommandLine.Usage
import KotlinFakes.Diagnostic.Explanation
import KotlinFakes.Diagnostic.Terminal
import KotlinFakes.Manifest.Load
import KotlinFakes.Pass.Run
import KotlinFakes.Signature.Listing

/-!
# Commands

What the program answers to its arguments: two texts, one for the results and one for what went
wrong, and whether it succeeded.
-/

namespace KotlinFakes.CommandLine

/-- What a command answers. -/
structure Reply where
  output : String
  errors : String
  isSuccess : Bool
  deriving Repr, DecidableEq

namespace Reply

def success (output : String) : Reply := ⟨output, "", true⟩

def failure (errors : String) : Reply := ⟨"", errors, false⟩

end Reply

def explain (written : String) : Reply :=
  match Code.ofText? written with
  | some code => .success (code.explanation ++ "\n")
  | none => .failure (unlines [
      "Unknown diagnostic code: " ++ written,
      "",
      "Codes have the format FXXXX where X is a digit.",
      "Known codes: " ++ Text.joinWith ", " (Code.all.map Code.text)])

/-- Reports in the form that suits where they are shown; nothing if there are none. -/
def shown (onTerminal : Bool) (ds : List Diagnostic) : String :=
  if ds.isEmpty then "" else Terminal.render (Terminal.ColorMode.auto.isColored onTerminal) ds

section Files

variable {m : Type → Type} [Monad m] [FileSystem m]

def signature (onTerminal : Bool) (manifest : Path) (options : FileOptions) : m Reply := do
  match ← Manifest.load manifest with
  | .error e => return .failure (shown onTerminal [e.diagnostic])
  | .ok subjects => return .success (Signature.listing options subjects)

/-- Generate the fakes of the annotated declarations in a manifest. -/
def generate (onTerminal : Bool) (options : Options) : m Reply := do
  match ← Manifest.load options.manifest with
  | .error e => return .failure (shown onTerminal [e.diagnostic])
  | .ok subjects =>
    let store ← options.config.openStore
    let (result, state) ← Pass.run options.config store subjects
    let reports := shown onTerminal state.reports.flush
    match result with
    | .error e => return .failure (reports ++ shown onTerminal [e.diagnostic])
    | .ok report =>
      let summary := report.summary ++ "\n"
      match report.error? with
      | none => return ⟨summary, reports, true⟩
      | some e => return ⟨summary, reports ++ "error: " ++ e.message ++ "\n", false⟩

/-- Run the program with its arguments. -/
def run (onTerminal : Bool) : List String → m Reply
  | [] => return .success usage
  | command :: arguments =>
    match command with
    | "generate" =>
      match Options.parse arguments with
      | .ok options => generate onTerminal options
      | .error e => return .failure ("error: " ++ e.message ++ "\n\n" ++ generateUsage)
    | "signature" =>
      match arguments with
      | [] => return .failure signatureUsage
      | manifest :: rest =>
        if rest.all (· = "--no-banner") then signature onTerminal ⟨manifest⟩ ⟨rest.isEmpty⟩
        else return .failure signatureUsage
    | "explain" | "--explain" =>
      match arguments with
      | [] => return .failure explainUsage
      | code :: _ => return explain code
    | "help" | "--help" | "-h" => return .success usage
    | "version" | "--version" | "-V" => return .success version
    | command => return ⟨usage, "Unknown command: " ++ command ++ "\n\n", false⟩

end Files

end KotlinFakes.CommandLine
