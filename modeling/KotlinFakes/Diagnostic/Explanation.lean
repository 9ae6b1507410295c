import KotlinFakes.Diagnostic.Code
import KotlinFakes.Text.Split

/-!
# Explanations of diagnostic codes

The longer text behind each code, for a user who asks what a report means.
-/

namespace KotlinFakes.Code

def explanationLines : Code → List String
  | unsupportedShape => [
    "# F0001: unsupported declaration shape",
    "",
    "The annotated declaration cannot be faked, so it was skipped.",
    "",
    "Fakes implement an interface or subclass a class. That is impossible for:",
    "",
    "- `final` classes, `object` declarations and `enum class`es",
    "- `sealed` classes and interfaces (subclasses must live in the same module)",
    "- classes whose constructor requires arguments",
    "",
    "Other declarations in the same compilation unit are still generated.",
    "",
    "## Solution",
    "",
    "Annotate an interface, or an `abstract`/`open` class with a no-argument",
    "constructor.",
    ""]
  | missingType => [
    "# F0002: missing type information",
    "",
    "A property's type could be determined from neither its getter nor its backing",
    "field. Generation for the declaration is aborted for this pass.",
    "",
    "## Solution",
    "",
    "Give the property an explicit type:",
    "",
    "```kotlin",
    "val name: String",
    "```",
    ""]
  | generationFailed => [
    "# F0003: generation failed",
    "",
    "Rendering or writing the fake for a declaration failed. No partial file is",
    "left behind; the build step fails after every other declaration has been",
    "attempted.",
    "",
    "The message names the declaration and the underlying cause (for example an",
    "I/O error writing the output directory, or a member whose name cannot be",
    "written as a Kotlin identifier).",
    ""]
  | cacheUnavailable => [
    "# F0004: signature cache unavailable",
    "",
    "The signature cache file could not be read or written. Generation continues,",
    "but every declaration is regenerated because nothing can be skipped safely.",
    "",
    "## Solution",
    "",
    "Check that the cache directory is writable. Deleting the cache file is always",
    "safe.",
    ""]
  | unresolvedBound => [
    "# F0005: unresolved type parameter bound",
    "",
    "A bound of a type parameter could not be resolved to a concrete type. It is",
    "treated as `Any?`, which may make the generated fake accept more than the",
    "original declaration does.",
    ""]
  | unusedTypeParam => [
    "# F0006: unused type parameter",
    "",
    "A type parameter is declared but never referenced by any parameter, return",
    "type or property. The fake is still generated; the warning usually points at a",
    "typo in the declaration.",
    "",
    "```kotlin",
    "interface Loader \x7b",
    "    fun <T> load(id: String): String // `T` is never used",
    "\x7d",
    "```",
    ""]
  | outputUnavailable => [
    "# F0007: output location unavailable",
    "",
    "The output directory for a declaration could not be resolved or created. This",
    "aborts the whole generation pass for the compilation unit.",
    ""]
  | cannotDelegate => [
    "# F0008: cannot delegate to supertype",
    "",
    "An open member has bounded method-level type parameters. Its stored behavior",
    "is erased to `Any?`, which cannot satisfy the bound when calling the supertype",
    "implementation. The member's default behavior fails when invoked instead of",
    "delegating; configure it explicitly in tests that call it.",
    ""]
  | invalidManifest => [
    "# F0009: invalid declaration manifest",
    "",
    "The declaration manifest could not be read or parsed. Check the JSON structure",
    "and the Kotlin type expressions used for member types.",
    ""]

/-- The explanation of a code; its last line ends with a line feed. -/
def explanation (code : Code) : String := Text.joinWith "\n" code.explanationLines

end KotlinFakes.Code
