/- Digest: A cursor that goes round a list for ever.

   The cursor is known by how many items it has given out. The next one is the item after that, and
   the first again after the last. A peek shows the same item and gives nothing out. -/

import Mathlib.Data.List.Rotate
import ZephyrEsphome.Library.Refinement

set_option autoImplicit false
set_option relaxedAutoImplicit false

namespace ZephyrEsphome.Library.Cycle

open Refinement

variable {α : Type}

inductive Ask
  | next
  | peek
  deriving DecidableEq

/-- The item that comes after `given` items. -/
def turn (items : List α) (given : Nat) : Option α := items[given % items.length]?

def Ask.gives : Ask → Nat
  | .next => 1
  | .peek => 0

def cursor (items : List α) : Spec Nat Ask α := fun given ask item given' =>
  turn items given = some item ∧ given' = given + ask.gives

section Turns

variable {items : List α} {given last : Nat}

theorem turn_exists (positive : 0 < items.length) (given : Nat) :
    ∃ item, turn items given = some item := by
  have inside := Nat.mod_lt given positive
  exact ⟨items[given % items.length], List.getElem?_eq_getElem inside⟩

theorem place_succ (positive : 0 < items.length) (given : Nat) :
    (given + 1) % items.length =
      if given % items.length + 1 < items.length then given % items.length + 1 else 0 := by
  have inside := Nat.mod_lt given positive
  rw [Nat.add_mod]
  by_cases within : given % items.length + 1 < items.length
  · rw [if_pos within, Nat.mod_eq_of_lt (show 1 < items.length by omega), Nat.mod_eq_of_lt within]
  · have full : given % items.length + 1 = items.length := by omega
    rw [if_neg within, Nat.add_mod_mod, full, Nat.mod_self]

theorem given_after {asks : List Ask} {replies : List α}
    (allowed : Allows (cursor items) given asks replies last) :
    last = given + asks.count .next := by
  induction allowed with
  | nil => rfl
  | @cons known next last ask item asks replies first _ ih =>
    obtain ⟨-, rfl⟩ := first
    rw [ih]
    cases ask with
    | next =>
      rw [List.count_cons_self]
      show known + 1 + _ = _
      omega
    | peek =>
      rw [List.count_cons_of_ne Ask.noConfusion]
      rfl

theorem replies_next {count : Nat} : ∀ {given : Nat} {replies : List α},
    Allows (cursor items) given (List.replicate count .next) replies last →
    replies.length = count ∧ ∀ i < count, replies[i]? = turn items (given + i) := by
  induction count with
  | zero =>
    intro given replies allowed
    cases allowed
    exact ⟨rfl, fun i below => absurd below (Nat.not_lt_zero i)⟩
  | succ count ih =>
    intro given replies allowed
    cases allowed with
    | cons first later =>
      obtain ⟨here, rfl⟩ := first
      obtain ⟨length, there⟩ := ih later
      refine ⟨congrArg Nat.succ length, ?_⟩
      intro i below
      cases i with
      | zero => exact here.symm
      | succ i =>
        rw [List.getElem?_cons_succ, there i (Nat.lt_of_succ_lt_succ below)]
        show turn items (given + 1 + i) = _
        rw [Nat.add_right_comm, Nat.add_assoc]

theorem replies_round {replies : List α}
    (allowed : Allows (cursor items) given (List.replicate items.length .next) replies last) :
    replies = items.rotate given := by
  obtain ⟨length, each⟩ := replies_next allowed
  apply List.ext_getElem?
  intro i
  by_cases inside : i < items.length
  · rw [each i inside, List.getElem?_rotate inside, turn, Nat.add_comm]
  · rw [List.getElem?_eq_none (by omega),
      List.getElem?_eq_none (by rw [List.length_rotate]; omega)]

theorem replies_round_perm {replies : List α}
    (allowed : Allows (cursor items) given (List.replicate items.length .next) replies last) :
    replies.Perm items := by
  rw [replies_round allowed]
  exact List.rotate_perm items given

end Turns

end ZephyrEsphome.Library.Cycle
