import KotlinFakes.Proofs.Slot.Allocation

/-!
# Slots by position

Slots can also be kept in lists beside the members, without saying whose they are: the slot of a member
is then the one at its position. Whether a function is overloaded can be looked up in a table that counts
names. Such look-ups can miss. They do not here: every name of a function is counted, and the lists go
along with the members.
-/

namespace KotlinFakes

/-- A look-up that finds nothing. -/
inductive Missing where
  /-- A position behind the end of a list. -/
  | position (index length : Nat)
  /-- A name that was not counted. -/
  | count (name : String)
  deriving Repr, DecidableEq

/-- The element at a position. -/
def Missing.read {α : Type} (xs : List α) (index : Nat) : Except Missing α :=
  match xs[index]? with
  | some x => .ok x
  | none => .error (.position index xs.length)

theorem Missing.read_of_getElem? {α : Type} {xs : List α} {index : Nat} {x : α}
    (h : xs[index]? = some x) : read xs index = .ok x := by
  rw [read, h]

theorem map_zipIdx_eq {ε α β : Type} {entries : List ε} {f : ε → α} {g : α × Nat → β} {h : ε → β}
    (heq : ∀ index entry, entries[index]? = some entry → g (f entry, index) = h entry) :
    (entries.map f).zipIdx.map g = entries.map h := by
  apply List.ext_getElem?
  intro index
  rw [List.getElem?_map, List.getElem?_zipIdx, List.getElem?_map, List.getElem?_map, Nat.zero_add]
  cases hentry : entries[index]? with
  | none => rfl
  | some entry => exact congrArg some (heq index entry hentry)

/-! ## Counted names -/

/-- How often each name was counted. The last entry of a name is the one that holds. -/
abbrev NameCounts := List (String × Nat)

namespace NameCounts

def add (counts : NameCounts) (name : String) : NameCounts :=
  (name, (counts.lookup name).getD 0 + 1) :: counts

def ofNames (names : List String) : NameCounts := names.foldl add []

def read (counts : NameCounts) (name : String) : Except Missing Nat :=
  match counts.lookup name with
  | some n => .ok n
  | none => .error (.count name)

theorem lookup_add (counts : NameCounts) (name other : String) :
    (counts.add name).lookup other =
      if other = name then some ((counts.lookup name).getD 0 + 1) else counts.lookup other := by
  rw [add, List.lookup_cons]
  by_cases h : other = name
  · simp [h]
  · rw [beq_false_of_ne h, if_neg h]

theorem lookup_foldl_add (counts : NameCounts) (names : List String) (name : String) :
    (names.foldl add counts).lookup name =
      if name ∈ names then some ((counts.lookup name).getD 0 + names.count name)
      else counts.lookup name := by
  induction names generalizing counts with
  | nil => rfl
  | cons first names ih =>
      rw [List.foldl_cons, ih, lookup_add]
      by_cases hfirst : name = first
      · subst hfirst
        by_cases hmem : name ∈ names
        · simp [hmem]
          omega
        · simp [hmem, List.count_eq_zero_of_not_mem hmem]
      · by_cases hmem : name ∈ names <;> simp [hfirst, hmem, Ne.symm hfirst]

theorem read_ofNames {names : List String} {name : String} (h : name ∈ names) :
    (ofNames names).read name = .ok (names.count name) := by
  rw [read, ofNames, lookup_foldl_add, if_pos h]
  simp

end NameCounts

/-! ## Lists of slots -/

/-- The slots of functions, getters and setters, each at the position of the function or property. -/
structure SlotLists where
  functions : List Slot
  getters : List Slot
  /-- A property that is not mutable has no setter. -/
  setters : List (Option Slot)
  deriving Repr, DecidableEq

namespace SlotLists

def function (lists : SlotLists) (index : Nat) : Except Missing Slot :=
  Missing.read lists.functions index

def getter (lists : SlotLists) (index : Nat) : Except Missing Slot := Missing.read lists.getters index

def setter (lists : SlotLists) (index : Nat) : Except Missing (Option Slot) :=
  Missing.read lists.setters index

/-- Claim the slots of one more property, the getter first. -/
def claimProperty (state : SlotLists × Claims) (p : Blueprint.Property) : SlotLists × Claims :=
  let (lists, claims) := state
  let getter := claims.slotFor p.name
  let claims := claims.add getter
  let lists := { lists with getters := lists.getters ++ [getter] }
  if p.isMutable then
    let setter := claims.slotFor ("set" ++ Identifier.capitalized p.name)
    ({ lists with setters := lists.setters ++ [some setter] }, claims.add setter)
  else ({ lists with setters := lists.setters ++ [none] }, claims)

/-- Claim the slots of functions, after a look at how often the name of each was counted. -/
def claimFunctions (counts : NameCounts) (claims : Claims) :
    List Blueprint.Function → Except Missing (List Slot)
  | [] => .ok []
  | f :: fs => do
    let count ← counts.read f.name
    let slot := claims.slotFor (if 1 < count then SlotTable.overloadBase f else f.name)
    let slots ← claimFunctions counts (claims.add slot) fs
    return slot :: slots

/-- The slots of a blueprint: those of the properties first, then those of the functions. -/
def build (b : Blueprint) : Except Missing SlotLists := do
  let (lists, claims) := b.properties.foldl claimProperty (⟨[], [], []⟩, .start b)
  let counts := NameCounts.ofNames (b.functions.map Blueprint.Function.name)
  let functions ← claimFunctions counts claims b.functions
  return { lists with functions }

/-- The slots of a table without their members. -/
def ofTable (table : SlotTable) : SlotLists where
  functions := table.functions.map FunctionSlot.slot
  getters := table.properties.map PropertySlots.getter
  setters := table.properties.map PropertySlots.setter

theorem foldl_claimProperty (lists : SlotLists) (claims : Claims) (ps : List Blueprint.Property) :
    ps.foldl claimProperty (lists, claims) =
      let (entries, claims) := SlotTable.forProperties claims ps
      ({ lists with
          getters := lists.getters ++ entries.map PropertySlots.getter
          setters := lists.setters ++ entries.map PropertySlots.setter }, claims) := by
  induction ps generalizing lists claims with
  | nil => simp [SlotTable.forProperties]
  | cons p ps ih =>
      rw [List.foldl_cons, claimProperty, SlotTable.forProperties]
      by_cases hmutable : p.isMutable <;> simp [hmutable, ih]

theorem claimFunctions_eq {functions fs : List Blueprint.Function} (hsub : fs ⊆ functions)
    (claims : Claims) :
    claimFunctions (.ofNames (functions.map Blueprint.Function.name)) claims fs =
      .ok ((SlotTable.forFunctions claims (SlotTable.requestedBase functions) fs).map
        FunctionSlot.slot) := by
  induction fs generalizing claims with
  | nil => rfl
  | cons f fs ih =>
      have hname := List.mem_map_of_mem (f := Blueprint.Function.name) (hsub List.mem_cons_self)
      have hbase : (if 1 < (functions.map Blueprint.Function.name).count f.name then
          SlotTable.overloadBase f else f.name) = SlotTable.requestedBase functions f := by
        simp [SlotTable.requestedBase, SlotTable.isOverloaded, List.count, List.countP_map,
          Function.comp_def, beq_eq_decide]
      rw [claimFunctions, NameCounts.read_ofNames hname, SlotTable.forFunctions]
      dsimp only [bind, Except.bind]
      rw [hbase, ih (List.subset_of_cons_subset hsub)]
      rfl

/-- No look-up misses while the lists are built, and they hold the slots of the members. -/
theorem build_eq (b : Blueprint) : build b = .ok (ofTable (SlotTable.ofBlueprint b)) := by
  rw [build, foldl_claimProperty]
  dsimp only
  rw [claimFunctions_eq (List.Subset.refl _)]
  simp [ofTable, SlotTable.ofBlueprint]

variable {table : SlotTable} {index : Nat}

theorem getter_ofTable {entry : PropertySlots} (h : table.properties[index]? = some entry) :
    (ofTable table).getter index = .ok entry.getter := by
  apply Missing.read_of_getElem?
  rw [ofTable, List.getElem?_map, h, Option.map_some]

theorem setter_ofTable {entry : PropertySlots} (h : table.properties[index]? = some entry) :
    (ofTable table).setter index = .ok entry.setter := by
  apply Missing.read_of_getElem?
  rw [ofTable, List.getElem?_map, h, Option.map_some]

theorem function_ofTable {entry : FunctionSlot} (h : table.functions[index]? = some entry) :
    (ofTable table).function index = .ok entry.slot := by
  apply Missing.read_of_getElem?
  rw [ofTable, List.getElem?_map, h, Option.map_some]

end SlotLists

end KotlinFakes
