/- Digest: Items sent one after the other on a stream, and read back one by one.

   A program that sends an item appends the item's symbols to what was sent before, and a program
   that reads an item takes exactly its symbols off the front of what is still to come. What holds
   for one item then holds for every list of items, whatever follows it on the stream. -/

import ZephyrEsphome.Library.Exec

set_option autoImplicit false
set_option relaxedAutoImplicit false

namespace ZephyrEsphome.Library.Stream

open Exec

variable {ε σ α β δ ρ : Type}

def inOrder : List (EStateM ε σ ρ) → EStateM ε σ (List ρ)
  | [] => pure []
  | m :: ms => do
    let r ← m
    let rs ← inOrder ms
    return r :: rs

theorem run_inOrder_cons {m : EStateM ε σ ρ} {s t : σ} {r : ρ} (h : m.run s = .ok r t)
    (ms : List (EStateM ε σ ρ)) :
    (inOrder (m :: ms)).run s = (inOrder ms >>= fun rs => pure (r :: rs)).run t := by
  rw [inOrder, run_bind_ok _ h]

theorem run_inOrder_stop {m : EStateM ε σ ρ} {s t : σ} {e : ε} (h : m.run s = .error e t)
    (ms : List (EStateM ε σ ρ)) : (inOrder (m :: ms)).run s = .error e t := by
  rw [inOrder, run_bind_error _ h]

theorem run_inOrder_inv {m : EStateM ε σ ρ} {ms : List (EStateM ε σ ρ)} {s u : σ} {rs : List ρ}
    (h : (inOrder (m :: ms)).run s = .ok rs u) :
    ∃ r t rest, m.run s = .ok r t ∧ (inOrder ms).run t = .ok rest u ∧ rs = r :: rest := by
  rw [inOrder] at h
  obtain ⟨r, t, first, others⟩ := run_bind_inv h
  obtain ⟨rest, v, later, finish⟩ := run_bind_inv others
  obtain ⟨rfl, rfl⟩ := run_pure_inv finish
  exact ⟨r, t, rest, first, later, rfl⟩

def readMany (m : EStateM ε σ (Except δ α)) : Nat → EStateM ε σ (Except δ (List α))
  | 0 => pure (.ok [])
  | n + 1 => do
    match ← m with
    | .error d => return .error d
    | .ok a =>
      match ← readMany m n with
      | .error d => return .error d
      | .ok as => return .ok (a :: as)

section Items

variable {item : α → List β}

/-- Sending `a` with the program `send a` returns `sent` and appends the item. -/
structure Sends (I : σ → Prop) (P : α → Prop) (item : α → List β) (stream : σ → List β) (sent : ρ)
    (send : α → EStateM ε σ ρ) : Prop where
  one : ∀ a s, P a → I s →
    ∃ t, (send a).run s = .ok sent t ∧ stream t = stream s ++ item a ∧ I t

/-- Reading with `m` gives the next item and takes its symbols off the stream. -/
structure Reads (I : σ → Prop) (P : α → Prop) (item : α → List β) (stream : σ → List β)
    (m : EStateM ε σ (Except δ α)) : Prop where
  one : ∀ a rest s, P a → I s → stream s = item a ++ rest →
    ∃ t, m.run s = .ok (.ok a) t ∧ stream t = rest ∧ I t

theorem Sends.many {I : σ → Prop} {P : α → Prop} {stream : σ → List β} {sent : ρ}
    {send : α → EStateM ε σ ρ} (h : Sends I P item stream sent send) (items : List α) :
    ∀ s, (∀ a ∈ items, P a) → I s →
      ∃ t, (inOrder (items.map send)).run s = .ok (items.map fun _ => sent) t ∧
        stream t = stream s ++ items.flatMap item ∧ I t := by
  induction items with
  | nil =>
    intro s _ inv
    exact ⟨s, rfl, (List.append_nil _).symm, inv⟩
  | cons a items ih =>
    intro s good inv
    obtain ⟨t, first, grown, inv⟩ := h.one a s (good a List.mem_cons_self) inv
    obtain ⟨u, others, grown', inv⟩ :=
      ih t (fun b member => good b (List.mem_cons_of_mem a member)) inv
    refine ⟨u, ?_, ?_, inv⟩
    · rw [List.map_cons, run_inOrder_cons first, run_bind_ok _ others]
      rfl
    · rw [grown', grown, List.flatMap_cons, List.append_assoc]

theorem Reads.many {I : σ → Prop} {P : α → Prop} {stream : σ → List β}
    {m : EStateM ε σ (Except δ α)} (h : Reads I P item stream m) (items : List α)
    (rest : List β) :
    ∀ s, (∀ a ∈ items, P a) → I s → stream s = items.flatMap item ++ rest →
      ∃ t, (readMany m items.length).run s = .ok (.ok items) t ∧ stream t = rest ∧ I t := by
  induction items with
  | nil =>
    intro s _ inv next
    exact ⟨s, rfl, next, inv⟩
  | cons a items ih =>
    intro s good inv next
    rw [List.flatMap_cons, List.append_assoc] at next
    obtain ⟨t, first, next, inv⟩ := h.one a _ s (good a List.mem_cons_self) inv next
    obtain ⟨u, others, next, inv⟩ :=
      ih t (fun b member => good b (List.mem_cons_of_mem a member)) inv next
    refine ⟨u, ?_, next, inv⟩
    rw [List.length_cons, readMany, run_bind_ok _ first]
    dsimp only
    rw [run_bind_ok _ others]
    rfl

theorem Reads.prefixes {I : σ → Prop} {P : α → Prop} {stream : σ → List β}
    {m : EStateM ε σ (Except δ α)} (h : Reads I P item stream m) {items : List α} {s : σ}
    (good : ∀ a ∈ items, P a) (inv : I s) (next : stream s = items.flatMap item)
    {k : Nat} (some : k ≤ items.length) :
    ∃ t, (readMany m k).run s = .ok (.ok (items.take k)) t ∧
      stream t = (items.drop k).flatMap item := by
  have split : stream s = (items.take k).flatMap item ++ (items.drop k).flatMap item := by
    rw [next, ← List.flatMap_append, List.take_append_drop]
  obtain ⟨t, run, left, -⟩ := h.many (items.take k) _ s
    (fun a member => good a (List.mem_of_mem_take member)) inv split
  rw [List.length_take, Nat.min_eq_left some] at run
  exact ⟨t, run, left⟩

end Items

end ZephyrEsphome.Library.Stream
