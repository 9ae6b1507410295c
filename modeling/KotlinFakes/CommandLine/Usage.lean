import KotlinFakes.Signature.Basic

/-!
# Usage texts

What the program says about itself.
-/

namespace KotlinFakes.CommandLine

def unlines (lines : List String) : String := String.join (lines.map fun line => line ++ "\n")

def version : String := "fakt " ++ generatorVersion ++ "\n"

def usage : String := unlines [
  "Fakt: compile-time fakes for Kotlin interfaces and classes",
  "",
  "Usage: fakt <command> [options]",
  "",
  "Commands:",
  "  generate <manifest.json> --out <dir>  Generate fakes",
  "  signature <manifest.json>             Print structural signatures",
  "  explain <code>                        Explain a diagnostic code (e.g., F0002)",
  "  help                                  Show this help message",
  "  version                               Show version information",
  "",
  "Generate options:",
  "  --cache <file>       Signature cache; unchanged declarations are skipped",
  "  --force              Regenerate everything",
  "  --no-parallel        Generate declarations sequentially",
  "  --per-entry          Append to the cache after every declaration",
  "  --annotation <Name>  Marker annotation (default: Fake)",
  "  --no-banner          Omit the generated-file banner",
  "  -v, --verbose        Debug logging (RUST_LOG overrides)",
  "",
  "Examples:",
  "  fakt generate fakes.json --out build/generated/fakt",
  "  fakt generate fakes.json --out gen --cache build/fakt/signatures.txt",
  "  fakt signature fakes.json",
  "  fakt explain F0001"]

def generateUsage : String := unlines [
  "Usage: fakt generate <manifest.json> --out <dir> [options]",
  "",
  "Options:",
  "  --out <dir>          Output root for generated fakes",
  "  --cache <file>       Signature cache; unchanged declarations are skipped",
  "  --force              Regenerate everything",
  "  --no-parallel        Generate declarations sequentially",
  "  --per-entry          Append to the cache after every declaration",
  "  --annotation <Name>  Marker annotation (default: Fake)",
  "  --no-banner          Omit the generated-file banner",
  "  -v, --verbose        Debug logging"]

def signatureUsage : String := "Usage: fakt signature <manifest.json> [--no-banner]\n"

def explainUsage : String := unlines [
  "Usage: fakt explain <CODE>",
  "Example: fakt explain F0002"]

end KotlinFakes.CommandLine
