import KotlinFakes.Default.Basic
import KotlinFakes.Ty.Substitution

/-!
# Defaults by type

Which value a type starts with. Nullable types start with `null`, primitives with zero, known
containers empty, and wrappers of other types with the defaults of their payload. A closure returns
the default of its result. Whatever has no safe value fails until it is configured.
-/

namespace KotlinFakes

/-- How the default of an applied class is built. -/
inductive DefaultShape where
  /-- From the first argument, as a success. -/
  | result
  /-- From all arguments, by the constructor. -/
  | tuple
  /-- An empty array, whose element type has to be known at run time. -/
  | array
  /-- An empty container. -/
  | container (factory : Factory)
  deriving Repr, DecidableEq

/-- The shape that belongs to a full class name. -/
def DefaultShape.ofName? (full : String) : Option DefaultShape :=
  if full = "kotlin.Result" then some .result
  else if full = "kotlin.Pair" || full = "kotlin.Triple" then some .tuple
  else if full = "kotlin.Array" then some .array
  else if full = "kotlinx.coroutines.flow.Flow" then some (.container .emptyFlow)
  else (Factory.containers.lookup full).map .container

namespace Default

/-- The call of a factory for the given type arguments. They are written only where one of them
    mentions an erased parameter, for then they cannot be inferred. -/
def callFor (erased : List String) (factory : Factory) (args : List Ty) : Default :=
  if args.any fun arg => arg.mentionsAny erased then
    .call factory (args.map fun arg => (arg.projected?.getD arg).erase erased)
  else .call factory []

/-- The default of a class without type arguments. -/
def ofName (name : QualifiedName) : Default :=
  if name.package = "kotlin" && name.simple != "Array" &&
      "Array".toList.isSuffixOf name.simple.toList then
    .emptyArray name.simple
  else
    match Factory.containers.lookup name.full with
    | some factory => .call factory []
    | none => .failure

/-- Whether a function type takes nothing but a block and returns what the block returns, which is
    of an erased type. A suspending block can only run in a suspending closure. -/
def runsBlock (erased : List String) (params : List Ty) (isSuspend : Bool) (result : Ty) : Bool :=
  match params, result with
  | [.function [] blockSuspends blockResult], .param name =>
    blockResult = result && erased.contains name && (!blockSuspends || isSuspend)
  | _, _ => false

/-- Whether a type mentions a type parameter that is not erased. -/
def mentionsKept (erased : List String) (t : Ty) : Bool :=
  t.params.any fun name => !erased.contains name

mutual
/-- The default of a type, with the given type parameters erased. -/
def ofTy (erased : List String) : Ty → Default
  | .nullable _ => .null
  | .primitive p => if p.zero?.isSome then .zero p else .failure
  | .named name => ofName name
  | .param _ => .failure
  | .apply name args =>
    let payloads := ofTys erased args
    match DefaultShape.ofName? name.full with
    | none => .failure
    | some .result =>
      match payloads with
      | [] => .failure
      | payload :: _ => if payload.isSafe then .success name payload else .failure
    | some .tuple => if allSafe payloads then .tuple name payloads else .failure
    | some .array =>
      if args.any (mentionsKept erased) then .failure else callFor erased .emptyArray args
    | some (.container factory) => callFor erased factory args
  | .function params isSuspend result =>
    if params = [result] then .identity
    else if runsBlock erased params isSuspend result then .runBlock
    else if result.isUnit then .idle params.length
    else .closure params.length (ofTy erased result)
def ofTys (erased : List String) : List Ty → List Default
  | [] => []
  | t :: ts => ofTy erased t :: ofTys erased ts
end

mutual
/-- The functions that have to be imported for the default of a type. -/
def importsOf (erased : List String) : Ty → List QualifiedName
  | .apply name args =>
    match DefaultShape.ofName? name.full with
    | some .result => importsOfFirst erased args
    | some .tuple => importsWhileSafe erased args
    | some (.container .emptyFlow) => [Factory.flowImport]
    | _ => []
  | .function params isSuspend result =>
    if params = [result] then []
    else if runsBlock erased params isSuspend result then []
    else if result.isUnit then []
    else importsOf erased result
  | _ => []
def importsOfFirst (erased : List String) : List Ty → List QualifiedName
  | [] => []
  | t :: _ => importsOf erased t
/-- The imports of the types of a list, up to the first that has no safe default. -/
def importsWhileSafe (erased : List String) : List Ty → List QualifiedName
  | [] => []
  | t :: ts =>
    importsOf erased t ++ if (ofTy erased t).isSafe then importsWhileSafe erased ts else []
end

end Default

end KotlinFakes
