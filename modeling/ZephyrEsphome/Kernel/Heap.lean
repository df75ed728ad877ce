/- Digest: The kernel heap as a ledger of outstanding blocks. -/

import ZephyrEsphome.Kernel.Basic
import ZephyrEsphome.Library.Resources

set_option autoImplicit false
set_option relaxedAutoImplicit false

namespace ZephyrEsphome.Kernel

open Library.Resources

abbrev Block := Nat × Nat

/-- `refusals` says for the next allocations whether each is refused; once it is used up none is. -/
structure Heap where
  ledger : Ledger Nat
  refusals : List Bool
  /-- What a new block, or a new array on the stack, holds before anything is stored in it. -/
  garbage : Nat → UInt8

namespace Heap

def Refuses (heap : Heap) : Prop := heap.refusals.head? = some true

instance (heap : Heap) : Decidable heap.Refuses := by
  unfold Refuses
  infer_instance

/-- `k_malloc`. -/
def kMalloc (heap : Heap) (size : Nat) : Option Block × Heap :=
  if heap.Refuses then (none, { heap with refusals := heap.refusals.tail })
  else (some (heap.ledger.next, size),
    { heap with ledger := acquire heap.ledger size, refusals := heap.refusals.tail })

/-- `k_free`. -/
def kFree (heap : Heap) (block : Block) : Heap :=
  { heap with ledger := release heap.ledger block }

def outstanding (heap : Heap) : Finset Block := heap.ledger.outstanding

/-- What is left of a heap of `capacity` bytes. -/
def free (capacity : Nat) (heap : Heap) : Nat := capacity - weight id heap.ledger

end Heap

end ZephyrEsphome.Kernel
