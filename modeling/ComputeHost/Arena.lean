/-
**Generational arenas.**

An arena keeps objects in slots and hands out handles. A handle is good while its generation is
the slot's; taking an object out moves the slot to the next generation, so an old handle does not
come back to life when the slot is used again.

* `insert` takes the slot freed last, or a new one at the end.
* `get?`, `contains`, `modify`, `take` act on exactly the handle given, and leave the arena as it is
  for a handle that is not live.
* `entries` lists the live objects in slot order.
-/

import ComputeHost.Handle

namespace ComputeHost

/-- One place in an arena: its current generation and the object in it, if any. -/
structure Slot (α : Type) where
  generation : UInt32
  content : Option α

/-- Objects of type `α` under handles of the kind `tag`. -/
structure Arena {κ : Type} (tag : κ) (α : Type) where
  slots : List (Slot α) := []
  /-- Indices of the empty slots, the one freed last in front. -/
  vacant : List UInt32 := []
  /-- How many objects are live. -/
  size : Nat := 0

namespace Arena

variable {κ : Type} {tag : κ} {α : Type}

/-- An arena without slots. -/
def empty : Arena tag α := {}

/-- The generation after `generation`. Zero is left out, so that no handle is all zeros. -/
def nextGeneration (generation : UInt32) : UInt32 :=
  if generation + 1 = 0 then 1 else generation + 1

/-- The generation of a slot; a slot not made yet starts with 1. -/
def generationAt (arena : Arena tag α) (index : UInt32) : UInt32 :=
  (arena.slots[index.toNat]?.map Slot.generation).getD 1

/-- Puts an object into the arena and returns its handle. -/
def insert (arena : Arena tag α) (object : α) : Handle tag × Arena tag α :=
  match arena.vacant with
  | index :: vacant =>
    (⟨index, arena.generationAt index⟩,
      { slots := arena.slots.modify index.toNat fun slot => { slot with content := some object }
        vacant
        size := arena.size + 1 })
  | [] =>
    (⟨UInt32.ofNat arena.slots.length, 1⟩,
      { arena with slots := arena.slots ++ [⟨1, some object⟩], size := arena.size + 1 })

/-- The object that the handle names. -/
def get? (arena : Arena tag α) (handle : Handle tag) : Option α :=
  arena.slots[handle.index.toNat]?.bind fun slot =>
    if slot.generation = handle.generation then slot.content else none

/-- Whether the handle names an object. -/
def contains (arena : Arena tag α) (handle : Handle tag) : Bool := (arena.get? handle).isSome

/-- Changes the object that the handle names. -/
def modify (arena : Arena tag α) (handle : Handle tag) (change : α → α) : Arena tag α :=
  if arena.contains handle then
    { arena with
      slots := arena.slots.modify handle.index.toNat fun slot =>
        { slot with content := slot.content.map change } }
  else arena

/-- The objects of two different live handles, in the order asked for. The slots are cut at the
higher of the two, so that each part holds one of the objects. -/
def getPair? (arena : Arena tag α) (first second : Handle tag) : Option (α × α) :=
  if first.index = second.index || !arena.contains first || !arena.contains second then none
  else
    let (low, high, swapped) :=
      if first.index < second.index then (first.index, second.index, false)
      else (second.index, first.index, true)
    let (head, tail) := arena.slots.splitAt high.toNat
    match head[low.toNat]?.bind Slot.content, tail.head?.bind Slot.content with
    | some lower, some upper => some (if swapped then (upper, lower) else (lower, upper))
    | _, _ => none

/-- The object that the handle names, and the arena without it. -/
def remove (arena : Arena tag α) (handle : Handle tag) : Option (α × Arena tag α) :=
  (arena.get? handle).map fun object =>
    (object,
      { slots := arena.slots.modify handle.index.toNat fun slot =>
          { generation := nextGeneration slot.generation, content := none }
        vacant := handle.index :: arena.vacant
        size := arena.size - 1 })

/-- Takes out the object that the handle names, if there is one. -/
def take (arena : Arena tag α) (handle : Handle tag) : Option α × Arena tag α :=
  match arena.remove handle with
  | none => (none, arena)
  | some (object, rest) => (some object, rest)

/-- The live objects with their handles, in slot order. -/
def entries (arena : Arena tag α) : List (Handle tag × α) :=
  arena.slots.zipIdx.filterMap fun (slot, index) =>
    slot.content.map fun object => (⟨UInt32.ofNat index, slot.generation⟩, object)

/-- The live handles, in slot order. -/
def handles (arena : Arena tag α) : List (Handle tag) := arena.entries.map Prod.fst

/-- The live objects, in slot order. -/
def objects (arena : Arena tag α) : List α := arena.entries.map Prod.snd

/-- Changes every live object. -/
def map (arena : Arena tag α) (change : α → α) : Arena tag α :=
  { arena with
    slots := arena.slots.map fun slot => { slot with content := slot.content.map change } }

/-- Takes out the objects in the slots at the given indices, one after the other. -/
def drainSlots : List Nat → Arena tag α → List α × Arena tag α
  | [], arena => ([], arena)
  | index :: rest, arena =>
    match arena.slots[index]? with
    | none => drainSlots rest arena
    | some slot =>
      let (taken, arena) := arena.take ⟨UInt32.ofNat index, slot.generation⟩
      let (objects, arena) := drainSlots rest arena
      (taken.toList ++ objects, arena)

/-- Takes out every object, in slot order. -/
def drain (arena : Arena tag α) : List α × Arena tag α :=
  drainSlots (List.range arena.slots.length) arena

/-- Whether no object is live. -/
def isEmpty (arena : Arena tag α) : Bool := arena.size == 0

/-! ### Looking up after one operation -/

theorem get?_of_not_contains {arena : Arena tag α} {handle : Handle tag}
    (absent : arena.contains handle = false) : arena.get? handle = none := by
  simpa [contains] using absent

theorem modify_of_not_contains {arena : Arena tag α} {handle : Handle tag} (change : α → α)
    (absent : arena.contains handle = false) : arena.modify handle change = arena := by
  simp [modify, absent]

end Arena

end ComputeHost
