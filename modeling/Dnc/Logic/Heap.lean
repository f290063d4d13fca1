/-
**Objects by address.**

A heap holds the objects that were allocated, one after another; the address of an object is its
place. `alloc` makes a new object, `modify` changes the one at an address, and `copy` allocates an
object equal to the one at an address. Nothing is ever freed.

The rules say what a reader of one address sees: a new object under a new address
(`read_alloc`, `read_copy`), the changed object (`read_modify_self`), and what it saw before
everywhere else (`Extends`, `read_modify_of_ne`).
-/

import Mathlib.Data.List.GetD

namespace Logic

/-- The allocated objects; an object's address is its place. -/
structure Heap (α : Type) where
  objects : List α := []

namespace Heap

variable {α : Type}

/-- An object was allocated at the address. -/
def Allocated (heap : Heap α) (address : Nat) : Prop := address < heap.objects.length

/-- The object at an address. -/
def read [Inhabited α] (heap : Heap α) (address : Nat) : α := heap.objects.getD address default

/-- A new object: its address, and the heap with it. -/
def alloc (heap : Heap α) (value : α) : Nat × Heap α :=
  (heap.objects.length, ⟨heap.objects ++ [value]⟩)

/-- A new object that equals the one at an address. -/
def copy [Inhabited α] (heap : Heap α) (address : Nat) : Nat × Heap α :=
  heap.alloc (heap.read address)

/-- The object at an address, changed in place. -/
def modify (heap : Heap α) (address : Nat) (change : α → α) : Heap α :=
  ⟨heap.objects.modify address change⟩

theorem allocated_alloc {heap : Heap α} {value : α} {address : Nat} :
    (heap.alloc value).2.Allocated address ↔
      heap.Allocated address ∨ address = (heap.alloc value).1 := by
  unfold Allocated alloc
  rw [List.length_append, List.length_singleton]
  omega

theorem not_allocated_alloc {heap : Heap α} {value : α} :
    ¬ heap.Allocated (heap.alloc value).1 := by
  show ¬ heap.objects.length < heap.objects.length
  omega

@[simp] theorem allocated_modify {heap : Heap α} {address other : Nat} {change : α → α} :
    (heap.modify address change).Allocated other ↔ heap.Allocated other := by
  unfold Allocated modify
  rw [List.length_modify]

variable [Inhabited α]

@[simp] theorem read_alloc (heap : Heap α) (value : α) :
    (heap.alloc value).2.read (heap.alloc value).1 = value := by
  simp [read, alloc]

/-- The second heap has the objects of the first, and perhaps more. -/
structure Extends (heap next : Heap α) : Prop where
  allocated : ∀ address, heap.Allocated address → next.Allocated address
  read : ∀ address, heap.Allocated address → next.read address = heap.read address

theorem Extends.trans {first second third : Heap α} (left : first.Extends second)
    (right : second.Extends third) : first.Extends third where
  allocated address old := right.allocated address (left.allocated address old)
  read address old :=
    (right.read address (left.allocated address old)).trans (left.read address old)

theorem extends_alloc (heap : Heap α) (value : α) : heap.Extends (heap.alloc value).2 where
  allocated _ old := allocated_alloc.mpr (Or.inl old)
  read _ old := List.getD_append _ _ _ _ old

theorem extends_copy (heap : Heap α) (address : Nat) : heap.Extends (heap.copy address).2 :=
  extends_alloc heap _

theorem allocated_copy (heap : Heap α) (address : Nat) :
    (heap.copy address).2.Allocated (heap.copy address).1 :=
  allocated_alloc.mpr (Or.inr rfl)

theorem not_allocated_copy (heap : Heap α) (address : Nat) :
    ¬ heap.Allocated (heap.copy address).1 :=
  not_allocated_alloc

@[simp] theorem read_copy (heap : Heap α) (address : Nat) :
    (heap.copy address).2.read (heap.copy address).1 = heap.read address :=
  read_alloc heap _

theorem read_modify_self {heap : Heap α} {address : Nat} (old : heap.Allocated address)
    (change : α → α) : (heap.modify address change).read address = change (heap.read address) := by
  have here : address < heap.objects.length := old
  simp [read, modify, here]

theorem read_modify_of_ne (heap : Heap α) {address other : Nat} (different : other ≠ address)
    (change : α → α) : (heap.modify address change).read other = heap.read other := by
  simp [read, modify, different.symm]

end Heap

end Logic
