/- Digest: Left folds that lose nothing, words that differ in one place, and folds of writes.

   A fold takes in a word letter by letter. If every letter can be undone and different letters lead
   to different states, then the state after a word still tells a change in one of its places. -/

import Mathlib.Data.List.Induction
import Mathlib.Logic.Function.Basic

set_option autoImplicit false
set_option relaxedAutoImplicit false

namespace ZephyrEsphome.Library.Folding

variable {σ α : Type}

structure Lossless (step : σ → α → σ) : Prop where
  undone : ∀ a, Function.Bijective fun s => step s a
  apart : ∀ s, Function.Injective (step s)

section Folds

variable {step : σ → α → σ} (lossless : Lossless step)

include lossless

theorem Lossless.foldl_bijective (word : List α) :
    Function.Bijective fun s => word.foldl step s := by
  induction word with
  | nil => exact Function.bijective_id
  | cons a word ih => exact ih.comp (lossless.undone a)

theorem Lossless.foldl_ne {a b : α} (differ : a ≠ b) (early late : List α) (s : σ) :
    (early ++ a :: late).foldl step s ≠ (early ++ b :: late).foldl step s := by
  rw [List.foldl_append, List.foldl_append, List.foldl_cons, List.foldl_cons]
  intro same
  have here := (lossless.foldl_bijective late).injective same
  exact differ (lossless.apart (early.foldl step s) here)

end Folds

structure DifferOnce (word other : List α) : Prop where
  length : word.length = other.length
  place : ∃ i : Nat, word[i]? ≠ other[i]? ∧ ∀ j : Nat, j ≠ i → word[j]? = other[j]?

theorem DifferOnce.split {word other : List α} (differ : DifferOnce word other) :
    ∃ early a b late, word = early ++ a :: late ∧ other = early ++ b :: late ∧ a ≠ b := by
  obtain ⟨i, here, elsewhere⟩ := differ.place
  have inside : i < word.length := by
    apply Nat.lt_of_not_le
    intro outside
    apply here
    rw [List.getElem?_eq_none outside, List.getElem?_eq_none (differ.length ▸ outside)]
  have inside' : i < other.length := differ.length ▸ inside
  have early : word.take i = other.take i := by
    apply List.ext_getElem?
    intro j
    by_cases before : j < i
    · rw [List.getElem?_take_of_lt before, List.getElem?_take_of_lt before,
        elsewhere j (Nat.ne_of_lt before)]
    · rw [List.getElem?_take_eq_none (Nat.not_lt.mp before),
        List.getElem?_take_eq_none (Nat.not_lt.mp before)]
  have late : word.drop (i + 1) = other.drop (i + 1) := by
    apply List.ext_getElem?
    intro j
    rw [List.getElem?_drop, List.getElem?_drop, elsewhere (i + 1 + j) (by omega)]
  refine ⟨word.take i, word[i], other[i], word.drop (i + 1), ?_, ?_, ?_⟩
  · rw [← List.drop_eq_getElem_cons inside, List.take_append_drop]
  · rw [early, late, ← List.drop_eq_getElem_cons inside', List.take_append_drop]
  · intro same
    apply here
    rw [List.getElem?_eq_getElem inside, List.getElem?_eq_getElem inside', same]

section Writes

variable {κ ν : Type} [DecidableEq κ]

def lastWrite (k : κ) (writes : List (κ × ν)) : Option ν :=
  (writes.reverse.find? (·.1 = k)).map Prod.snd

theorem lastWrite_concat (k : κ) (writes : List (κ × ν)) (write : κ × ν) :
    lastWrite k (writes ++ [write]) =
      if write.1 = k then some write.2 else lastWrite k writes := by
  unfold lastWrite
  rw [List.reverse_append, List.reverse_singleton, List.singleton_append, List.find?_cons]
  by_cases same : write.1 = k
  · simp [same]
  · simp [same]

theorem foldl_update (writes : List (κ × ν)) (store : κ → ν) (k : κ) :
    writes.foldl (fun store write => Function.update store write.1 write.2) store k =
      (lastWrite k writes).getD (store k) := by
  induction writes using List.reverseRecOn with
  | nil => rfl
  | append_singleton writes write ih =>
    rw [List.foldl_append, List.foldl_cons, List.foldl_nil, lastWrite_concat]
    by_cases same : write.1 = k
    · rw [if_pos same, ← same, Function.update_self]
      rfl
    · rw [if_neg same, Function.update_of_ne (Ne.symm same), ih]

end Writes

end ZephyrEsphome.Library.Folding
