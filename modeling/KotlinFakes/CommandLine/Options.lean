import KotlinFakes.Pass.Config
import KotlinFakes.Text.Split

/-!
# Options of the generate command

An option that takes a value has it behind an equals sign or as the next argument. The one argument
that is no option is the manifest.
-/

namespace KotlinFakes.CommandLine

/-- An option that takes a value. -/
inductive Setting where
  | output
  | cache
  | marker
  deriving Repr, DecidableEq

def Setting.text : Setting → String
  | .output => "--out"
  | .cache => "--cache"
  | .marker => "--annotation"

/-- An option that takes no value. -/
inductive Switch where
  | force
  | sequential
  | perEntry
  | noBanner
  | verbose
  deriving Repr, DecidableEq

/-- Why arguments cannot be understood. -/
inductive OptionsError where
  | missingValue (setting : Setting)
  | unknownOption (argument : String)
  | unexpectedArgument (argument : String)
  | missingOutput
  | missingManifest
  deriving Repr, DecidableEq

def OptionsError.message : OptionsError → String
  | .missingValue setting => "missing value for " ++ setting.text
  | .unknownOption argument => "unknown option '" ++ argument ++ "'"
  | .unexpectedArgument argument => "unexpected argument '" ++ argument ++ "'"
  | .missingOutput => "missing --out <dir>"
  | .missingManifest => "missing manifest path"

/-- What an argument is by itself. -/
inductive Argument where
  /-- An option that takes a value, with the value if it is part of the argument. -/
  | setting (setting : Setting) (value : Option String)
  | switch (switch : Switch)
  | unknown
  | positional
  deriving Repr, DecidableEq

/-- The name of an option and the value behind the equals sign. Only an argument with two dashes has
    a value of its own. -/
def splitValue (argument : String) : String × Option String :=
  match Text.cut '=' argument.toList with
  | some ('-' :: '-' :: name, value) =>
    (String.ofList ('-' :: '-' :: name), some (String.ofList value))
  | _ => (argument, none)

/-- The options that take a value. -/
def settings : List (String × Setting) :=
  [("--out", .output), ("-o", .output), ("--cache", .cache), ("--annotation", .marker)]

/-- The options that take no value. -/
def switches : List (String × Switch) :=
  [("--force", .force), ("--no-parallel", .sequential), ("--per-entry", .perEntry),
    ("--no-banner", .noBanner), ("--verbose", .verbose), ("-v", .verbose)]

def Argument.read (argument : String) : Argument :=
  let (name, value) := splitValue argument
  match settings.lookup name with
  | some found => .setting found value
  | none =>
    match switches.lookup name with
    | some found => .switch found
    | none => if name.toList.head? = some '-' then .unknown else .positional

/-- What the arguments that were read so far say. -/
structure Draft where
  manifest : Option Path
  output : Option Path
  /-- The settings of the pass, with the standard output directory. -/
  config : Pass.Config
  isVerbose : Bool
  deriving Repr, DecidableEq

namespace Draft

/-- What holds before any argument is read. -/
def start : Draft := ⟨none, none, .standard, false⟩

def set (draft : Draft) (value : String) : Setting → Draft
  | .output => { draft with output := some ⟨value⟩ }
  | .cache => { draft with config := { draft.config with cache := some ⟨value⟩ } }
  | .marker => { draft with config := { draft.config with marker := value } }

/-- Take an option that has no value. -/
def turn (draft : Draft) : Switch → Draft
  | .force => { draft with config := { draft.config with isForced := true } }
  | .sequential => { draft with config := { draft.config with isParallel := false } }
  | .perEntry => { draft with config := { draft.config with mode := .perEntry } }
  | .noBanner => { draft with config := { draft.config with hasBanner := false } }
  | .verbose => { draft with isVerbose := true }

/-- Read the arguments of a list after those that were read already. -/
def readAll (draft : Draft) : List String → Except OptionsError Draft
  | [] => .ok draft
  | argument :: rest =>
    match Argument.read argument with
    | .setting setting (some value) => readAll (draft.set value setting) rest
    | .setting setting none =>
      match rest with
      | [] => .error (.missingValue setting)
      | value :: rest => readAll (draft.set value setting) rest
    | .switch switch => readAll (draft.turn switch) rest
    | .unknown => .error (.unknownOption argument)
    | .positional =>
      if draft.manifest.isSome then .error (.unexpectedArgument argument)
      else readAll { draft with manifest := some ⟨argument⟩ } rest

end Draft

/-- The options of the generate command. -/
structure Options where
  manifest : Path
  config : Pass.Config
  isVerbose : Bool
  deriving Repr, DecidableEq

def Draft.options (draft : Draft) : Except OptionsError Options :=
  match draft.output, draft.manifest with
  | none, _ => .error .missingOutput
  | some _, none => .error .missingManifest
  | some output, some manifest =>
    .ok ⟨manifest, { draft.config with output := output }, draft.isVerbose⟩

/-- Read the arguments of the generate command. -/
def Options.parse (arguments : List String) : Except OptionsError Options :=
  match Draft.start.readAll arguments with
  | .error e => .error e
  | .ok draft => draft.options

end KotlinFakes.CommandLine
