import Paperdoll.Character.Slot

/-!
# Something for each slot, something for each part

Two records with a field for every slot and for every body part, read and written through the
slot or the part. **`get_set`** is the law of both.
-/

namespace Paperdoll

/-- A value for each slot. -/
structure Slotted (α : Type) where
  backArm : α
  body : α
  frontArm : α
  head : α
  hair : α
  facialHair : α
  mask : α
deriving DecidableEq, Repr

namespace Slotted

variable {α : Type}

def fill (a : α) : Slotted α := ⟨a, a, a, a, a, a, a⟩

def get (v : Slotted α) : Slot → α
  | .backArm => v.backArm
  | .body => v.body
  | .frontArm => v.frontArm
  | .head => v.head
  | .hair => v.hair
  | .facialHair => v.facialHair
  | .mask => v.mask

def set (v : Slotted α) (slot : Slot) (a : α) : Slotted α :=
  match slot with
  | .backArm => { v with backArm := a }
  | .body => { v with body := a }
  | .frontArm => { v with frontArm := a }
  | .head => { v with head := a }
  | .hair => { v with hair := a }
  | .facialHair => { v with facialHair := a }
  | .mask => { v with mask := a }

@[simp]
theorem get_fill (a : α) (slot : Slot) : (fill a).get slot = a := by
  cases slot <;> rfl

theorem get_set (v : Slotted α) (slot : Slot) (a : α) (other : Slot) :
    (v.set slot a).get other = if other = slot then a else v.get other := by
  cases slot <;> cases other <;> rfl

def map {β : Type} (f : α → β) (v : Slotted α) : Slotted β :=
  ⟨f v.backArm, f v.body, f v.frontArm, f v.head, f v.hair, f v.facialHair, f v.mask⟩

@[simp]
theorem get_map {β : Type} (f : α → β) (v : Slotted α) (slot : Slot) :
    (v.map f).get slot = f (v.get slot) := by
  cases slot <;> rfl

theorem ext_get {v w : Slotted α} (h : ∀ slot, v.get slot = w.get slot) : v = w := by
  cases v
  cases w
  simp only [mk.injEq]
  exact ⟨h .backArm, h .body, h .frontArm, h .head, h .hair, h .facialHair, h .mask⟩

end Slotted

/-- A value for each body part. -/
structure Parted (α : Type) where
  body : α
  hair : α
  facialHair : α
  mask : α
deriving DecidableEq, Repr

namespace Parted

variable {α : Type}

def fill (a : α) : Parted α := ⟨a, a, a, a⟩

def get (v : Parted α) : BodyPart → α
  | .body => v.body
  | .hair => v.hair
  | .facialHair => v.facialHair
  | .mask => v.mask

def set (v : Parted α) (part : BodyPart) (a : α) : Parted α :=
  match part with
  | .body => { v with body := a }
  | .hair => { v with hair := a }
  | .facialHair => { v with facialHair := a }
  | .mask => { v with mask := a }

@[simp]
theorem get_fill (a : α) (part : BodyPart) : (fill a).get part = a := by
  cases part <;> rfl

theorem get_set (v : Parted α) (part : BodyPart) (a : α) (other : BodyPart) :
    (v.set part a).get other = if other = part then a else v.get other := by
  cases part <;> cases other <;> rfl

@[simp]
theorem get_set_self (v : Parted α) (part : BodyPart) (a : α) : (v.set part a).get part = a := by
  rw [get_set, if_pos rfl]

theorem get_set_of_ne (v : Parted α) {part other : BodyPart} (h : other ≠ part) (a : α) :
    (v.set part a).get other = v.get other := by
  rw [get_set, if_neg h]

theorem ext_get {v w : Parted α} (h : ∀ part, v.get part = w.get part) : v = w := by
  cases v
  cases w
  simp only [mk.injEq]
  exact ⟨h .body, h .hair, h .facialHair, h .mask⟩

end Parted

end Paperdoll
