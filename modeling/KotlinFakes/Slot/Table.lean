import KotlinFakes.Blueprint.Basic
import KotlinFakes.Slot.Basic

/-!
# Slot tables

Slots for all members of a blueprint: properties first, a getter and then a setter for each, and
then functions. A base that is taken, or whose derived names would meet a member of the subject,
gets a number.
-/

namespace KotlinFakes

/-- What a new slot must keep clear of. -/
structure Claims where
  bases : List String
  properties : List String
  functions : List String
  deriving Repr, DecidableEq

namespace Claims

/-- Nothing claimed yet; only the members of the subject are in the way. -/
def start (b : Blueprint) : Claims :=
  ⟨[], b.properties.map Blueprint.Property.name, b.functions.map Blueprint.Function.name⟩

/-- Whether a slot keeps clear of all claims. -/
def isFree (claims : Claims) (slot : Slot) : Bool :=
  !claims.bases.contains slot.base && !claims.properties.contains slot.behavior &&
    !claims.properties.contains slot.counter && !claims.properties.contains slot.counterState &&
    !claims.functions.contains slot.configure

/-- The slots that are tried for a base: the base itself, then with the numbers from 2. -/
def candidate (base : String) : Nat → Slot
  | 0 => ⟨base⟩
  | n + 1 => ⟨base ++ toString (n + 2)⟩

/-- The first free candidate from the given one on, among as many as there is fuel for. -/
def search (claims : Claims) (base : String) : (fuel index : Nat) → Slot
  | 0, index => candidate base index
  | fuel + 1, index =>
    if claims.isFree (candidate base index) then candidate base index
    else claims.search base fuel (index + 1)

/-- How many candidates the claims can block: a base one, a property three, a function one. -/
def blockable (claims : Claims) : Nat :=
  claims.bases.length + 3 * claims.properties.length + claims.functions.length

def slotFor (claims : Claims) (base : String) : Slot := claims.search base claims.blockable 0

def add (claims : Claims) (slot : Slot) : Claims := { claims with bases := slot.base :: claims.bases }

end Claims

/-- A property with its slots; it has a setter if it is mutable. -/
structure PropertySlots where
  property : Blueprint.Property
  getter : Slot
  setter : Option Slot
  deriving Repr, DecidableEq

/-- A function with its slot. -/
structure FunctionSlot where
  function : Blueprint.Function
  slot : Slot
  deriving Repr, DecidableEq

/-- The members of a blueprint with their slots. -/
structure SlotTable where
  properties : List PropertySlots
  functions : List FunctionSlot
  deriving Repr, DecidableEq

namespace SlotTable

/-- Slots for properties, and the claims after them. -/
def forProperties (claims : Claims) : List Blueprint.Property → List PropertySlots × Claims
  | [] => ([], claims)
  | p :: ps =>
    let getter := claims.slotFor p.name
    let claims := claims.add getter
    if p.isMutable then
      let setter := claims.slotFor ("set" ++ Identifier.capitalized p.name)
      let (rest, claims) := forProperties (claims.add setter) ps
      (⟨p, getter, some setter⟩ :: rest, claims)
    else
      let (rest, claims) := forProperties claims ps
      (⟨p, getter, none⟩ :: rest, claims)

/-- The base of an overloaded function: its name and a word for each parameter. -/
def overloadBase (f : Blueprint.Function) : String :=
  f.name ++ String.join (f.valueTypes.map fun t => Identifier.capitalized t.word)

/-- Whether another function has the same name. -/
def isOverloaded (functions : List Blueprint.Function) (f : Blueprint.Function) : Bool :=
  decide (1 < functions.countP fun g => g.name = f.name)

def requestedBase (functions : List Blueprint.Function) (f : Blueprint.Function) : String :=
  if isOverloaded functions f then overloadBase f else f.name

/-- Slots for functions, given the bases they ask for. -/
def forFunctions (claims : Claims) (base : Blueprint.Function → String) :
    List Blueprint.Function → List FunctionSlot
  | [] => []
  | f :: fs =>
    let slot := claims.slotFor (base f)
    ⟨f, slot⟩ :: forFunctions (claims.add slot) base fs

def ofBlueprint (b : Blueprint) : SlotTable :=
  let (properties, claims) := forProperties (.start b) b.properties
  ⟨properties, forFunctions claims (requestedBase b.functions) b.functions⟩

end SlotTable

end KotlinFakes
