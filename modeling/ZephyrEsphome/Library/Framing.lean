/- Digest: Parts of the state that a program neither looks at nor changes.

   A part of the state is given by the function that replaces it. A program does not see the part
   when it makes no difference whether the part is replaced before the program runs or after. -/

import ZephyrEsphome.Library.Exec

set_option autoImplicit false
set_option relaxedAutoImplicit false

namespace ZephyrEsphome.Library.Framing

open Exec

variable {ε σ τ α β γ ι : Type}

def replaced (put : τ → σ → σ) (t : τ) : EStateM.Result ε σ α → EStateM.Result ε σ α
  | .ok a s => .ok a (put t s)
  | .error e s => .error e (put t s)

@[simp] theorem replaced_ok (put : τ → σ → σ) (t : τ) (a : α) (s : σ) :
    replaced put t (.ok a s : EStateM.Result ε σ α) = .ok a (put t s) := rfl

@[simp] theorem replaced_error (put : τ → σ → σ) (t : τ) (e : ε) (s : σ) :
    replaced put t (.error e s : EStateM.Result ε σ α) = .error e (put t s) := rfl

structure Unseen (put : τ → σ → σ) (m : EStateM ε σ α) : Prop where
  run : ∀ s t, m.run (put t s) = replaced put t (m.run s)

section Rules

variable {put : τ → σ → σ}

theorem unseen_pure (a : α) : Unseen put (pure a : EStateM ε σ α) where
  run _ _ := rfl

theorem unseen_throw (e : ε) : Unseen put (throw e : EStateM ε σ α) where
  run _ _ := rfl

theorem unseen_bind {m : EStateM ε σ α} {f : α → EStateM ε σ β} (hm : Unseen put m)
    (hf : ∀ a, Unseen put (f a)) : Unseen put (m >>= f) := by
  constructor
  intro s t
  have first := hm.run s t
  cases run : m.run s with
  | ok a u =>
    rw [run] at first
    rw [run_bind_ok f first, run_bind_ok f run]
    exact (hf a).run u t
  | error e u =>
    rw [run] at first
    rw [run_bind_error f first, run_bind_error f run]
    rfl

theorem unseen_get {f : σ → EStateM ε σ β} (same : ∀ s t, f (put t s) = f s)
    (rest : ∀ s, Unseen put (f s)) : Unseen put (get >>= f) := by
  constructor
  intro s t
  rw [run_bind_ok f (run_get (put t s)), run_bind_ok f (run_get s), same]
  exact (rest s).run s t

theorem unseen_modify {f : σ → σ} (apart : ∀ s t, f (put t s) = put t (f s)) :
    Unseen put (modify f : EStateM ε σ PUnit) where
  run s t := congrArg (EStateM.Result.ok PUnit.unit) (apart s t)

theorem unseen_modifyGet {f : σ → α × σ} (value : ∀ s t, (f (put t s)).1 = (f s).1)
    (apart : ∀ s t, (f (put t s)).2 = put t (f s).2) :
    Unseen put (modifyGet f : EStateM ε σ α) where
  run s t := by
    show EStateM.Result.ok (f (put t s)).1 (f (put t s)).2 = .ok (f s).1 (put t (f s).2)
    rw [value, apart]

theorem unseen_ite {p : Prop} [Decidable p] {m n : EStateM ε σ α} (hm : Unseen put m)
    (hn : Unseen put n) : Unseen put (if p then m else n) := by
  split
  · exact hm
  · exact hn

theorem unseen_forM {items : List ι} {f : ι → EStateM ε σ PUnit} (h : ∀ i, Unseen put (f i)) :
    Unseen put (forM items f) := by
  induction items with
  | nil => exact unseen_pure _
  | cons i items ih =>
    rw [List.forM_cons]
    exact unseen_bind (h i) fun _ => ih

theorem unseen_zoom {part : σ → γ} {store : γ → σ → σ} {m : EStateM ε γ α}
    (kept : ∀ s t, part (put t s) = part s)
    (apart : ∀ s t c, store c (put t s) = put t (store c s)) : Unseen put (zoom part store m) := by
  constructor
  intro s t
  cases run : m.run (part s) with
  | ok a c =>
    rw [run_zoom_ok store run, run_zoom_ok store (by rw [kept, run]), apart]
    rfl
  | error e c =>
    rw [run_zoom_error store run, run_zoom_error store (by rw [kept, run]), apart]
    rfl

end Rules

end ZephyrEsphome.Library.Framing
