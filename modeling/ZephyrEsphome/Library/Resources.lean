/- Digest: A ledger of resources handed out and not yet given back. -/

import Mathlib.Algebra.BigOperators.Group.Finset.Basic
import Mathlib.Algebra.Order.BigOperators.Group.Finset

set_option autoImplicit false
set_option relaxedAutoImplicit false

namespace ZephyrEsphome.Library.Resources

variable {κ : Type} [DecidableEq κ]

/-- The resources handed out under distinct numbers; `next` has never been used as a number. -/
structure Ledger (κ : Type) [DecidableEq κ] where
  next : Nat
  outstanding : Finset (Nat × κ)
  fresh : ∀ entry ∈ outstanding, entry.1 < next

def empty : Ledger κ where
  next := 0
  outstanding := ∅
  fresh := by simp

def acquire (l : Ledger κ) (item : κ) : Ledger κ where
  next := l.next + 1
  outstanding := insert (l.next, item) l.outstanding
  fresh := by
    intro entry member
    rcases Finset.mem_insert.mp member with rfl | old
    · exact Nat.lt_succ_self _
    · exact Nat.lt_succ_of_lt (l.fresh entry old)

def release (l : Ledger κ) (entry : Nat × κ) : Ledger κ where
  next := l.next
  outstanding := l.outstanding.erase entry
  fresh := fun other member => l.fresh other (Finset.mem_of_mem_erase member)

theorem next_not_mem (l : Ledger κ) (item : κ) : (l.next, item) ∉ l.outstanding := by
  intro member
  exact Nat.lt_irrefl _ (l.fresh _ member)

@[simp] theorem outstanding_acquire (l : Ledger κ) (item : κ) :
    (acquire l item).outstanding = insert (l.next, item) l.outstanding := rfl

@[simp] theorem outstanding_release (l : Ledger κ) (entry : Nat × κ) :
    (release l entry).outstanding = l.outstanding.erase entry := rfl

theorem release_acquire (l : Ledger κ) (item : κ) :
    (release (acquire l item) (l.next, item)).outstanding = l.outstanding := by
  rw [outstanding_release, outstanding_acquire, Finset.erase_insert (next_not_mem l item)]

theorem acquire_ne (l : Ledger κ) (item : κ) :
    (acquire l item).outstanding ≠ l.outstanding := by
  intro same
  have member : (l.next, item) ∈ l.outstanding := by
    rw [← same, outstanding_acquire]
    exact Finset.mem_insert_self _ _
  exact next_not_mem l item member

def weight (size : κ → Nat) (l : Ledger κ) : Nat :=
  ∑ entry ∈ l.outstanding, size entry.2

theorem weight_acquire (size : κ → Nat) (l : Ledger κ) (item : κ) :
    weight size (acquire l item) = weight size l + size item := by
  rw [weight, outstanding_acquire, Finset.sum_insert (next_not_mem l item), Nat.add_comm]
  rfl

section Holders

variable {ι ρ : Type}

/-- Every resource that is out is one of `base`, or one holder has it and no other. -/
structure Owned (base out : Finset ρ) (holds : ι → Option ρ) : Prop where
  kept : base ⊆ out
  held : ∀ i r, holds i = some r → r ∈ out ∧ r ∉ base
  apart : ∀ i j r, holds i = some r → holds j = some r → i = j
  owner : ∀ r ∈ out, r ∈ base ∨ ∃ i, holds i = some r

variable {base out : Finset ρ} {holds : ι → Option ρ}

theorem owned_start (empty : ∀ i, holds i = none) : Owned base base holds where
  kept := Finset.Subset.refl base
  held i r here := by
    rw [empty i] at here
    cases here
  apart i j r here _ := by
    rw [empty i] at here
    cases here
  owner _ member := Or.inl member

theorem Owned.rest (owned : Owned base out holds) (empty : ∀ i, holds i = none) : out = base := by
  apply Finset.Subset.antisymm _ owned.kept
  intro r member
  rcases owned.owner r member with kept | ⟨i, here⟩
  · exact kept
  · rw [empty i] at here
    cases here

variable [DecidableEq ι] [DecidableEq ρ]

theorem Owned.take (owned : Owned base out holds) {i : ι} {r : ρ} (empty : holds i = none)
    (fresh : r ∉ out) : Owned base (insert r out) (Function.update holds i (some r)) := by
  have before : ∀ {j r'}, Function.update holds i (some r) j = some r' →
      (j = i ∧ r' = r) ∨ (j ≠ i ∧ holds j = some r') := by
    intro j r' here
    by_cases same : j = i
    · subst same
      rw [Function.update_self] at here
      exact Or.inl ⟨rfl, (Option.some.inj here).symm⟩
    · rw [Function.update_of_ne same] at here
      exact Or.inr ⟨same, here⟩
  constructor
  · exact owned.kept.trans (Finset.subset_insert r out)
  · intro j r' here
    rcases before here with ⟨-, rfl⟩ | ⟨-, here'⟩
    · exact ⟨Finset.mem_insert_self _ _, fun old => fresh (owned.kept old)⟩
    · obtain ⟨member, new⟩ := owned.held j r' here'
      exact ⟨Finset.mem_insert_of_mem member, new⟩
  · intro j k r' here there
    rcases before here with ⟨rfl, rfl⟩ | ⟨-, here'⟩
    · rcases before there with ⟨same, -⟩ | ⟨-, there'⟩
      · exact same.symm
      · exact absurd (owned.held k r' there').1 fresh
    · rcases before there with ⟨-, rfl⟩ | ⟨-, there'⟩
      · exact absurd (owned.held j r' here').1 fresh
      · exact owned.apart j k r' here' there'
  · intro r' member
    rcases Finset.mem_insert.mp member with rfl | old
    · exact Or.inr ⟨i, Function.update_self i _ _⟩
    · rcases owned.owner r' old with kept | ⟨j, here⟩
      · exact Or.inl kept
      · have other : j ≠ i := by
          rintro rfl
          rw [empty] at here
          cases here
        exact Or.inr ⟨j, by rw [Function.update_of_ne other, here]⟩

theorem Owned.give (owned : Owned base out holds) {i : ι} {r : ρ} (here : holds i = some r) :
    Owned base (out.erase r) (Function.update holds i none) := by
  have before : ∀ {j r'}, Function.update holds i none j = some r' → j ≠ i ∧ holds j = some r' := by
    intro j r' there
    by_cases same : j = i
    · rw [same, Function.update_self] at there
      cases there
    · rw [Function.update_of_ne same] at there
      exact ⟨same, there⟩
  constructor
  · intro r' old
    refine Finset.mem_erase.mpr ⟨?_, owned.kept old⟩
    rintro rfl
    exact (owned.held i r' here).2 old
  · intro j r' there
    obtain ⟨other, there⟩ := before there
    obtain ⟨member, new⟩ := owned.held j r' there
    refine ⟨Finset.mem_erase.mpr ⟨?_, member⟩, new⟩
    rintro rfl
    exact other (owned.apart j i r' there here)
  · intro j k r' there there'
    exact owned.apart j k r' (before there).2 (before there').2
  · intro r' member
    obtain ⟨differs, old⟩ := Finset.mem_erase.mp member
    rcases owned.owner r' old with kept | ⟨j, there⟩
    · exact Or.inl kept
    · have other : j ≠ i := by
        rintro rfl
        rw [here] at there
        exact differs (Option.some.inj there).symm
      exact Or.inr ⟨j, by rw [Function.update_of_ne other, there]⟩

end Holders

end ZephyrEsphome.Library.Resources
