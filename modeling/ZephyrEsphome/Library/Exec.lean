/- Digest: Programs over a state that may stop early, and the rules for what their runs do.

   Programs are taken from the core library's `EStateM`. A run either returns a value or stops with
   a reason, and in both cases it leaves a state. `Meets` speaks about one run, `Keeps` about all
   runs of a program, and `loop` is the loop that gives up after a number of rounds. -/

import Mathlib.Order.Defs.Unbundled

set_option autoImplicit false
set_option relaxedAutoImplicit false

namespace ZephyrEsphome.Library.Exec

variable {ε σ τ α β γ δ ρ : Type}

def final : EStateM.Result ε σ α → σ
  | .ok _ s => s
  | .error _ s => s

@[simp] theorem final_ok (a : α) (s : σ) : final (.ok a s : EStateM.Result ε σ α) = s := rfl

def returned : EStateM.Result ε σ α → Bool
  | .ok _ _ => true
  | .error _ _ => false

theorem run_get (s : σ) : (get : EStateM ε σ σ).run s = .ok s s := rfl

theorem run_bind_ok {m : EStateM ε σ α} {s t : σ} {a : α} (f : α → EStateM ε σ β)
    (h : m.run s = .ok a t) : (m >>= f).run s = (f a).run t := by
  rw [EStateM.run_bind, h]

theorem run_bind_error {m : EStateM ε σ α} {s t : σ} {e : ε} (f : α → EStateM ε σ β)
    (h : m.run s = .error e t) : (m >>= f).run s = .error e t := by
  rw [EStateM.run_bind, h]

theorem run_bind_inv {m : EStateM ε σ α} {f : α → EStateM ε σ β} {s u : σ} {b : β}
    (h : (m >>= f).run s = .ok b u) : ∃ a t, m.run s = .ok a t ∧ (f a).run t = .ok b u := by
  cases r : m.run s with
  | ok a t =>
    rw [run_bind_ok f r] at h
    exact ⟨a, t, rfl, h⟩
  | error e t =>
    rw [run_bind_error f r] at h
    exact absurd h nofun

theorem final_ignored (m : EStateM ε σ α) (s : σ) :
    final ((do let _ ← m : EStateM ε σ Unit).run s) = final (m.run s) := by
  cases run : m.run s with
  | ok a t =>
    rw [run_bind_ok _ run]
    rfl
  | error e t =>
    rw [run_bind_error _ run]
    rfl

theorem run_checked_inv {m rest : EStateM ε σ Int} {s t : σ}
    (h : (do
      let ret ← m
      if ret ≠ 0 then
        return ret
      rest).run s = .ok 0 t) : ∃ u, m.run s = .ok 0 u ∧ rest.run u = .ok 0 t := by
  obtain ⟨ret, u, first, later⟩ := run_bind_inv h
  by_cases failed : ret ≠ 0
  · rw [if_pos failed] at later
    exact absurd (EStateM.Result.ok.inj later).1 failed
  · rw [if_neg failed] at later
    rw [Decidable.of_not_not failed] at first
    exact ⟨u, first, later⟩

theorem run_pure_inv {s t : σ} {a b : α} (h : (pure a : EStateM ε σ α).run s = .ok b t) :
    a = b ∧ s = t :=
  EStateM.Result.ok.inj h

theorem run_pure_iff {s t : σ} {a b : α} :
    (pure a : EStateM ε σ α).run s = .ok b t ↔ a = b ∧ s = t :=
  ⟨run_pure_inv, fun same => by rw [same.1, same.2]; rfl⟩

theorem run_unless {p : Prop} [Decidable p] {m : EStateM ε σ α} {bad a : α} {s t : σ}
    (differ : bad ≠ a) :
    (if p then pure bad else m).run s = .ok a t ↔ ¬ p ∧ m.run s = .ok a t := by
  by_cases failed : p
  · rw [if_pos failed]
    constructor
    · intro run
      exact absurd (run_pure_inv run).1 differ
    · rintro ⟨passed, -⟩
      exact absurd failed passed
  · rw [if_neg failed]
    exact ⟨fun run => ⟨failed, run⟩, And.right⟩

/-- The run returns a value and a state in `Q`, or stops with a reason and a state in `E`. -/
def Meets (Q : α → σ → Prop) (E : ε → σ → Prop) : EStateM.Result ε σ α → Prop
  | .ok a s => Q a s
  | .error e s => E e s

@[simp] theorem meets_ok (Q : α → σ → Prop) (E : ε → σ → Prop) (a : α) (s : σ) :
    Meets Q E (.ok a s) ↔ Q a s := Iff.rfl

@[simp] theorem meets_error (Q : α → σ → Prop) (E : ε → σ → Prop) (e : ε) (s : σ) :
    Meets Q E (.error e s : EStateM.Result ε σ α) ↔ E e s := Iff.rfl

theorem Meets.imp {Q Q' : α → σ → Prop} {E E' : ε → σ → Prop} {r : EStateM.Result ε σ α}
    (h : Meets Q E r) (hQ : ∀ a s, Q a s → Q' a s) (hE : ∀ e s, E e s → E' e s) :
    Meets Q' E' r := by
  cases r with
  | ok a s => exact hQ a s h
  | error e s => exact hE e s h

theorem meets_bind {Q : β → σ → Prop} {E : ε → σ → Prop} {m : EStateM ε σ α}
    {f : α → EStateM ε σ β} {s : σ}
    (h : Meets (fun a t => Meets Q E ((f a).run t)) E (m.run s)) :
    Meets Q E ((m >>= f).run s) := by
  rw [EStateM.run_bind]
  cases r : m.run s with
  | ok a t => simpa only [r, meets_ok] using h
  | error e t => simpa only [r, meets_error] using h

def Returns (m : EStateM ε σ α) : Prop :=
  ∀ s, ∃ a t, m.run s = .ok a t

theorem returns_pure (a : α) : Returns (pure a : EStateM ε σ α) :=
  fun s => ⟨a, s, rfl⟩

theorem returns_get : Returns (get : EStateM ε σ σ) :=
  fun s => ⟨s, s, rfl⟩

theorem returns_modifyGet (f : σ → α × σ) : Returns (modifyGet f : EStateM ε σ α) :=
  fun s => ⟨(f s).1, (f s).2, rfl⟩

theorem returns_bind {m : EStateM ε σ α} {f : α → EStateM ε σ β} (hm : Returns m)
    (hf : ∀ a, Returns (f a)) : Returns (m >>= f) := by
  intro s
  obtain ⟨a, t, first⟩ := hm s
  obtain ⟨b, u, second⟩ := hf a t
  refine ⟨b, u, ?_⟩
  rw [run_bind_ok f first, second]

theorem returns_ite {p : Prop} [Decidable p] {m n : EStateM ε σ α} (hm : Returns m)
    (hn : Returns n) : Returns (if p then m else n) := by
  split
  · exact hm
  · exact hn

structure Guarantee (σ : Type) where
  onReturn : σ → σ → Prop
  onStop : σ → σ → Prop
  refl : ∀ s, onReturn s s
  trans : ∀ {s t u}, onReturn s t → onReturn t u → onReturn s u
  absorb : ∀ {s t u}, onReturn s t → onStop t u → onStop s u

class Stoppable (G : Guarantee σ) : Prop where
  stop_refl : ∀ s, G.onStop s s

namespace Guarantee

def always (R : σ → σ → Prop) [IsPreorder σ R] : Guarantee σ where
  onReturn := R
  onStop := R
  refl := refl_of R
  trans := trans_of R
  absorb := trans_of R

instance stoppable_always (R : σ → σ → Prop) [IsPreorder σ R] : Stoppable (always R) where
  stop_refl := refl_of R

def returning (R : σ → σ → Prop) [IsPreorder σ R] : Guarantee σ where
  onReturn := R
  onStop := fun _ _ => True
  refl := refl_of R
  trans := trans_of R
  absorb := fun _ _ => trivial

instance stoppable_returning (R : σ → σ → Prop) [IsPreorder σ R] : Stoppable (returning R) where
  stop_refl := fun _ => trivial

def total (σ : Type) : Guarantee σ where
  onReturn := fun _ _ => True
  onStop := fun _ _ => False
  refl := fun _ => trivial
  trans := fun _ _ => trivial
  absorb := fun _ stopped => stopped

/-- The two states agree in what `f` shows of them. -/
def Same (f : σ → δ) (s t : σ) : Prop := f t = f s

instance isPreorder_same (f : σ → δ) : IsPreorder σ (Same f) where
  refl _ := rfl
  trans _ _ _ first second := Eq.trans second first

/-- The list that `f` shows has grown at its end, by elements in `P` only. -/
def Grown (f : σ → List δ) (P : δ → Prop) (s t : σ) : Prop :=
  ∃ added, f t = f s ++ added ∧ ∀ d ∈ added, P d

theorem grown_none {f : σ → List δ} {P : δ → Prop} {s t : σ} (same : f t = f s) : Grown f P s t :=
  ⟨[], by rw [same, List.append_nil], nofun⟩

theorem grown_one {f : σ → List δ} {P : δ → Prop} {s t : σ} {d : δ} (one : f t = f s ++ [d])
    (holds : P d) : Grown f P s t := by
  refine ⟨[d], one, ?_⟩
  intro d' member
  rcases List.mem_singleton.mp member with rfl
  exact holds

instance isPreorder_grown (f : σ → List δ) (P : δ → Prop) : IsPreorder σ (Grown f P) where
  refl _ := grown_none rfl
  trans s t u := by
    rintro ⟨first, hfirst, pfirst⟩ ⟨second, hsecond, psecond⟩
    refine ⟨first ++ second, ?_, ?_⟩
    · rw [hsecond, hfirst, List.append_assoc]
    · intro d member
      rcases List.mem_append.mp member with early | late
      · exact pfirst d early
      · exact psecond d late

end Guarantee

structure Keeps (G : Guarantee σ) (m : EStateM ε σ α) : Prop where
  run : ∀ s, Meets (fun _ t => G.onReturn s t) (fun _ t => G.onStop s t) (m.run s)

theorem Keeps.final {R : σ → σ → Prop} [IsPreorder σ R] {m : EStateM ε σ α}
    (h : Keeps (Guarantee.always R) m) (s : σ) : R s (final (m.run s)) := by
  have run := h.run s
  cases r : m.run s with
  | ok a t =>
    rw [r] at run
    exact run
  | error e t =>
    rw [r] at run
    exact run

/-- What a run adds to the list that `f` shows. -/
def added (f : σ → List δ) (s : σ) (r : EStateM.Result ε σ α) : List δ :=
  (f (final r)).drop (f s).length

theorem added_ignored (f : σ → List δ) (m : EStateM ε σ α) (s : σ) :
    added f s ((do let _ ← m : EStateM ε σ Unit).run s) = added f s (m.run s) := by
  rw [added, added, final_ignored]

theorem mem_added {f : σ → List δ} {P : δ → Prop} {s : σ} {r : EStateM.Result ε σ α} {d : δ}
    (grown : Guarantee.Grown f P s (final r)) (member : d ∈ added f s r) : P d := by
  obtain ⟨more, same, all⟩ := grown
  rw [added, same, List.drop_left] at member
  exact all d member

theorem added_after {f : σ → List δ} {P : δ → Prop} {s t : σ} {r : EStateM.Result ε σ α}
    {early : List δ} (grown : Guarantee.Grown f P t (final r)) (before : f t = f s ++ early) :
    added f s r = early ++ added f t r := by
  obtain ⟨more, same, -⟩ := grown
  rw [added, added, same, List.drop_left, before, List.append_assoc, List.drop_left]

theorem added_bind_left {f : σ → List δ} {P : δ → Prop} {m : EStateM ε σ α}
    {g : α → EStateM ε σ β} {s : σ} {d : δ}
    (keeps : ∀ a, Keeps (Guarantee.always (Guarantee.Grown f P)) (g a))
    (member : d ∈ added f s (m.run s)) : d ∈ added f s ((m >>= g).run s) := by
  cases first : m.run s with
  | ok a t =>
    obtain ⟨more, same, -⟩ := (keeps a).final t
    rw [run_bind_ok g first, added, same, List.drop_append]
    rw [first] at member
    exact List.mem_append_left _ member
  | error e t =>
    rw [run_bind_error g first]
    rw [first] at member
    exact member

theorem added_bind_right {f : σ → List δ} {P : δ → Prop} {m : EStateM ε σ α}
    {g : α → EStateM ε σ β} {s t : σ} {a : α} {d : δ}
    (keeps : Keeps (Guarantee.always (Guarantee.Grown f P)) m) (first : m.run s = .ok a t)
    (member : d ∈ added f t ((g a).run t)) : d ∈ added f s ((m >>= g).run s) := by
  obtain ⟨more, same, -⟩ := keeps.final s
  rw [first, final_ok] at same
  have shorter : (f s).length ≤ (f t).length := by
    rw [same, List.length_append]
    omega
  rw [run_bind_ok g first]
  exact (List.drop_sublist_drop_left _ shorter).mem member

theorem returns_of_keeps {m : EStateM ε σ α} (h : Keeps (Guarantee.total σ) m) : Returns m := by
  intro s
  have run := h.run s
  cases r : m.run s with
  | ok a t => exact ⟨a, t, rfl⟩
  | error e t =>
    rw [r] at run
    exact run.elim

section Rules

variable {G : Guarantee σ}

theorem keeps_pure (a : α) : Keeps G (pure a : EStateM ε σ α) where
  run s := G.refl s

theorem keeps_throw [Stoppable G] (e : ε) : Keeps G (throw e : EStateM ε σ α) where
  run s := Stoppable.stop_refl s

theorem keeps_get : Keeps G (get : EStateM ε σ σ) where
  run s := G.refl s

theorem keeps_modify {f : σ → σ} (h : ∀ s, G.onReturn s (f s)) :
    Keeps G (modify f : EStateM ε σ PUnit) where
  run := h

theorem keeps_modifyGet {f : σ → α × σ} (h : ∀ s, G.onReturn s (f s).2) :
    Keeps G (modifyGet f : EStateM ε σ α) where
  run := h

theorem keeps_bind {m : EStateM ε σ α} {f : α → EStateM ε σ β}
    (hm : Keeps G m) (hf : ∀ a, Keeps G (f a)) : Keeps G (m >>= f) := by
  constructor
  intro s
  apply meets_bind
  refine (hm.run s).imp ?_ ?_
  · intro a t first
    refine ((hf a).run t).imp ?_ ?_
    · intro _ u second
      exact G.trans first second
    · intro _ u stopped
      exact G.absorb first stopped
  · intro _ t stopped
    exact stopped

theorem keeps_ite {p : Prop} [Decidable p] {m n : EStateM ε σ α}
    (hm : Keeps G m) (hn : Keeps G n) : Keeps G (if p then m else n) := by
  split
  · exact hm
  · exact hn

theorem keeps_forM {items : List γ} {f : γ → EStateM ε σ PUnit}
    (h : ∀ c ∈ items, Keeps G (f c)) : Keeps G (forM items f) := by
  induction items with
  | nil => exact keeps_pure _
  | cons c items ih =>
    rw [List.forM_cons]
    apply keeps_bind
    · exact h c List.mem_cons_self
    · intro _
      apply ih
      intro d member
      exact h d (List.mem_cons_of_mem c member)

end Rules

def zoom (part : σ → τ) (put : τ → σ → σ) (m : EStateM ε τ α) : EStateM ε σ α := fun s =>
  match m.run (part s) with
  | .ok a t => .ok a (put t s)
  | .error e t => .error e (put t s)

theorem run_zoom_ok {part : σ → τ} (put : τ → σ → σ) {m : EStateM ε τ α} {s : σ} {t : τ} {a : α}
    (h : m.run (part s) = .ok a t) : (zoom part put m).run s = .ok a (put t s) := by
  have unfolded : (zoom part put m).run s = zoom part put m s := rfl
  rw [unfolded, zoom, h]

theorem run_zoom_error {part : σ → τ} (put : τ → σ → σ) {m : EStateM ε τ α} {s : σ} {t : τ}
    {e : ε} (h : m.run (part s) = .error e t) :
    (zoom part put m).run s = .error e (put t s) := by
  have unfolded : (zoom part put m).run s = zoom part put m s := rfl
  rw [unfolded, zoom, h]

theorem run_zoom_same {part : σ → τ} {put : τ → σ → σ} {m : EStateM ε τ α} {s : σ} {a : α}
    (h : m.run (part s) = .ok a (part s)) (back : put (part s) s = s) :
    (zoom part put m).run s = .ok a s := by
  rw [run_zoom_ok put h, back]

theorem keeps_zoom {G : Guarantee σ} {part : σ → τ} {put : τ → σ → σ} {m : EStateM ε τ α}
    (returned : ∀ s t, G.onReturn s (put t s)) (stopped : ∀ s t, G.onStop s (put t s)) :
    Keeps G (zoom part put m) := by
  constructor
  intro s
  cases h : m.run (part s) with
  | ok a t =>
    rw [run_zoom_ok put h]
    exact returned s t
  | error e t =>
    rw [run_zoom_error put h]
    exact stopped s t

/-- Repeat `body` until it gives a result; give up when the rounds are used up. -/
def loop (exhausted : ε) (body : γ → EStateM ε σ (γ ⊕ ρ)) : Nat → γ → EStateM ε σ ρ
  | 0, _ => throw exhausted
  | rounds + 1, c => do
    match ← body c with
    | .inl next => loop exhausted body rounds next
    | .inr result => pure result

section Loops

variable {exhausted : ε} {body : γ → EStateM ε σ (γ ⊕ ρ)}

theorem loop_zero (c : γ) (s : σ) :
    (loop exhausted body 0 c).run s = .error exhausted s := rfl

theorem loop_next {c next : γ} {s t : σ} (h : (body c).run s = .ok (.inl next) t)
    (rounds : Nat) :
    (loop exhausted body (rounds + 1) c).run s = (loop exhausted body rounds next).run t := by
  rw [loop, run_bind_ok _ h]

theorem loop_done {c : γ} {result : ρ} {s t : σ} (h : (body c).run s = .ok (.inr result) t)
    (rounds : Nat) : (loop exhausted body (rounds + 1) c).run s = .ok result t := by
  rw [loop, run_bind_ok _ h]
  rfl

theorem loop_stop {c : γ} {e : ε} {s t : σ} (h : (body c).run s = .error e t)
    (rounds : Nat) : (loop exhausted body (rounds + 1) c).run s = .error e t := by
  rw [loop, run_bind_error _ h]

inductive Rounds (body : γ → EStateM ε σ (γ ⊕ ρ)) (c₀ : γ) (s₀ : σ) : γ → σ → Prop
  | start : Rounds body c₀ s₀ c₀ s₀
  | next {c c' : γ} {s t : σ} (before : Rounds body c₀ s₀ c s)
      (round : (body c).run s = .ok (.inl c') t) : Rounds body c₀ s₀ c' t

inductive Advances (body : γ → EStateM ε σ (γ ⊕ ρ)) : Nat → γ → σ → γ → σ → Prop
  | none (c : γ) (s : σ) : Advances body 0 c s c s
  | next {rounds : Nat} {c c' c'' : γ} {s t u : σ} (round : (body c).run s = .ok (.inl c') t)
      (later : Advances body rounds c' t c'' u) : Advances body (rounds + 1) c s c'' u

theorem loop_advances {rounds : Nat} {c c' : γ} {s t : σ}
    (advances : Advances body rounds c s c' t) (more : Nat) :
    (loop exhausted body (more + rounds) c).run s = (loop exhausted body more c').run t := by
  induction advances with
  | none c s => rfl
  | next round _ ih =>
    rw [← Nat.add_assoc, loop_next round]
    exact ih

theorem loop_ok_iff {u : σ} {r : ρ} (rounds : Nat) : ∀ {c : γ} {s : σ},
    (loop exhausted body rounds c).run s = .ok r u ↔
      ∃ n c' t, n < rounds ∧ Advances body n c s c' t ∧ (body c').run t = .ok (.inr r) u := by
  induction rounds with
  | zero =>
    intro c s
    rw [loop_zero]
    constructor
    · intro run
      cases run
    · rintro ⟨n, -, -, within, -⟩
      exact absurd within (Nat.not_lt_zero n)
  | succ rounds ih =>
    intro c s
    constructor
    · intro run
      cases h : (body c).run s with
      | ok outcome t =>
        cases outcome with
        | inl next =>
          rw [loop_next h] at run
          obtain ⟨n, c', t', within, advances, last⟩ := ih.mp run
          exact ⟨n + 1, c', t', Nat.succ_lt_succ within, .next h advances, last⟩
        | inr result =>
          rw [loop_done h] at run
          obtain ⟨rfl, rfl⟩ := EStateM.Result.ok.inj run
          exact ⟨0, c, s, Nat.succ_pos rounds, .none c s, h⟩
      | error e t =>
        rw [loop_stop h] at run
        cases run
    · rintro ⟨n, c', t, within, advances, last⟩
      cases advances with
      | none => exact loop_done last rounds
      | next round later =>
        rw [loop_next round]
        exact ih.mpr ⟨_, c', t, Nat.succ_lt_succ_iff.mp within, later, last⟩

theorem Rounds.advance {rounds : Nat} {c₀ c c' : γ} {s₀ s t : σ}
    (before : Rounds body c₀ s₀ c s) (advances : Advances body rounds c s c' t) :
    Rounds body c₀ s₀ c' t := by
  induction advances with
  | none c s => exact before
  | next round _ ih => exact ih (before.next round)

theorem loop_ok_rounds {rounds : Nat} {c₀ c : γ} {s₀ s u : σ} {r : ρ}
    (before : Rounds body c₀ s₀ c s) (run : (loop exhausted body rounds c).run s = .ok r u) :
    ∃ c' t, Rounds body c₀ s₀ c' t ∧ (body c').run t = .ok (.inr r) u := by
  obtain ⟨n, c', t, -, advances, last⟩ := (loop_ok_iff rounds).mp run
  exact ⟨c', t, before.advance advances, last⟩

theorem loop_variant {I : γ → σ → Prop} {Q : ρ → σ → Prop} (measure : γ → σ → Nat)
    (round : ∀ c s, I c s → ∃ outcome t, (body c).run s = .ok outcome t ∧
      outcome.elim (fun next => I next t ∧ measure next t < measure c s) (fun r => Q r t))
    (rounds : Nat) : ∀ c s, I c s → measure c s < rounds →
      ∃ r t, (loop exhausted body rounds c).run s = .ok r t ∧ Q r t := by
  induction rounds with
  | zero =>
    intro c s _ bound
    exact absurd bound (Nat.not_lt_zero _)
  | succ rounds ih =>
    intro c s inv bound
    obtain ⟨outcome, t, run, holds⟩ := round c s inv
    cases outcome with
    | inl next =>
      rw [loop_next run]
      obtain ⟨kept, lower⟩ := holds
      exact ih next t kept (Nat.lt_of_lt_of_le lower (Nat.lt_succ_iff.mp bound))
    | inr result => exact ⟨result, t, loop_done run rounds, holds⟩

theorem keeps_loop {G : Guarantee σ} [Stoppable G] (h : ∀ c, Keeps G (body c)) (rounds : Nat) :
    ∀ c, Keeps G (loop exhausted body rounds c) := by
  induction rounds with
  | zero =>
    intro c
    exact keeps_throw exhausted
  | succ rounds ih =>
    intro c
    apply keeps_bind (h c)
    rintro (next | result)
    · exact ih next
    · exact keeps_pure result

end Loops

/-- Every run of the program that stops does so for a reason in `E`. -/
structure StopsFor (E : ε → Prop) (m : EStateM ε σ α) : Prop where
  reason : ∀ s e t, m.run s = .error e t → E e

section Reasons

variable {E : ε → Prop}

theorem stopsFor_of_returns {m : EStateM ε σ α} (returns : Returns m) : StopsFor E m := by
  constructor
  intro s e t stopped
  obtain ⟨a, u, run⟩ := returns s
  rw [run] at stopped
  exact absurd stopped nofun

theorem stopsFor_throw {e : ε} (expected : E e) : StopsFor E (throw e : EStateM ε σ α) := by
  constructor
  intro s e' t stopped
  obtain ⟨rfl, -⟩ := EStateM.Result.error.inj stopped
  exact expected

theorem stopsFor_bind {m : EStateM ε σ α} {f : α → EStateM ε σ β} (hm : StopsFor E m)
    (hf : ∀ a, StopsFor E (f a)) : StopsFor E (m >>= f) := by
  constructor
  intro s e t stopped
  cases run : m.run s with
  | ok a u =>
    rw [run_bind_ok f run] at stopped
    exact (hf a).reason u e t stopped
  | error e' u =>
    rw [run_bind_error f run] at stopped
    obtain ⟨rfl, rfl⟩ := EStateM.Result.error.inj stopped
    exact hm.reason s e' u run

theorem stopsFor_ite {p : Prop} [Decidable p] {m n : EStateM ε σ α} (hm : StopsFor E m)
    (hn : StopsFor E n) : StopsFor E (if p then m else n) := by
  split
  · exact hm
  · exact hn

theorem stopsFor_zoom {part : σ → τ} {put : τ → σ → σ} {m : EStateM ε τ α} (hm : StopsFor E m) :
    StopsFor E (zoom part put m) := by
  constructor
  intro s e t stopped
  cases run : m.run (part s) with
  | ok a u =>
    rw [run_zoom_ok put run] at stopped
    exact absurd stopped nofun
  | error e' u =>
    rw [run_zoom_error put run] at stopped
    obtain ⟨rfl, -⟩ := EStateM.Result.error.inj stopped
    exact hm.reason (part s) e' u run

theorem stopsFor_loop {exhausted : ε} {body : γ → EStateM ε σ (γ ⊕ ρ)} (expected : E exhausted)
    (h : ∀ c, StopsFor E (body c)) (rounds : Nat) :
    ∀ c, StopsFor E (loop exhausted body rounds c) := by
  induction rounds with
  | zero =>
    intro c
    exact stopsFor_throw expected
  | succ rounds ih =>
    intro c
    apply stopsFor_bind (h c)
    rintro (next | result)
    · exact ih next
    · exact stopsFor_of_returns (returns_pure result)

end Reasons

end ZephyrEsphome.Library.Exec
