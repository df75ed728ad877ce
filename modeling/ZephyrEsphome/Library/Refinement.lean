/- Digest: Objects that answer calls, what their answers may be, and when answers agree.

   An object answers one call after the other. An abstract object says, of each call, which answers
   it allows and what it is afterwards. The object refines it when every answer is an allowed one. -/

set_option autoImplicit false
set_option relaxedAutoImplicit false

namespace ZephyrEsphome.Library.Refinement

variable {σ τ κ ρ ω : Type}

abbrev Machine (σ κ ρ : Type) := σ → κ → Option (ρ × σ)

abbrev Spec (τ κ ρ : Type) := τ → κ → ρ → τ → Prop

def answers (machine : Machine σ κ ρ) : List κ → σ → Option (List ρ × σ)
  | [], s => some ([], s)
  | call :: calls, s =>
    (machine s call).bind fun first =>
      (answers machine calls first.2).map fun later => (first.1 :: later.1, later.2)

theorem answers_cons {machine : Machine σ κ ρ} {s t u : σ} {call : κ} {reply : ρ}
    {calls : List κ} {replies : List ρ} (first : machine s call = some (reply, t))
    (later : answers machine calls t = some (replies, u)) :
    answers machine (call :: calls) s = some (reply :: replies, u) := by
  rw [answers, first, Option.bind_some, later]
  rfl

inductive Allows (spec : Spec τ κ ρ) : τ → List κ → List ρ → τ → Prop
  | nil (known : τ) : Allows spec known [] [] known
  | cons {known next last : τ} {call : κ} {reply : ρ} {calls : List κ} {replies : List ρ}
      (first : spec known call reply next) (later : Allows spec next calls replies last) :
      Allows spec known (call :: calls) (reply :: replies) last

structure Refines (machine : Machine σ κ ρ) (spec : Spec τ κ ρ) (stands : σ → τ → Prop) :
    Prop where
  step : ∀ s known call, stands s known → ∃ reply t next,
    machine s call = some (reply, t) ∧ spec known call reply next ∧ stands t next

theorem Refines.run {machine : Machine σ κ ρ} {spec : Spec τ κ ρ} {stands : σ → τ → Prop}
    (refines : Refines machine spec stands) (calls : List κ) : ∀ s known, stands s known →
    ∃ replies t last, answers machine calls s = some (replies, t) ∧
      Allows spec known calls replies last ∧ stands t last := by
  induction calls with
  | nil =>
    intro s known here
    exact ⟨[], s, known, rfl, .nil known, here⟩
  | cons call calls ih =>
    intro s known here
    obtain ⟨reply, t, next, first, allowed, there⟩ := refines.step s known call here
    obtain ⟨replies, u, last, later, allowed', final⟩ := ih t next there
    exact ⟨reply :: replies, u, last, answers_cons first later, .cons allowed allowed', final⟩

/-- Where two answers to a call agree in `chosen`, they agree in `shown` too, and leave the same. -/
def Determined (spec : Spec τ κ ρ) (chosen shown : κ → ρ → ω) : Prop :=
  ∀ known call reply reply' next next', spec known call reply next →
    spec known call reply' next' → chosen call reply = chosen call reply' →
    shown call reply = shown call reply' ∧ next = next'

theorem Determined.run {spec : Spec τ κ ρ} {chosen shown : κ → ρ → ω}
    (determined : Determined spec chosen shown) {known last : τ} {calls : List κ}
    {replies : List ρ} (allowed : Allows spec known calls replies last) :
    ∀ {replies' last'}, Allows spec known calls replies' last' →
      List.zipWith chosen calls replies = List.zipWith chosen calls replies' →
      List.zipWith shown calls replies = List.zipWith shown calls replies' := by
  induction allowed with
  | nil known =>
    intro replies' last' allowed' _
    cases allowed'
    rfl
  | @cons known next last call reply calls replies first _ ih =>
    intro replies' last' allowed' agree
    cases allowed' with
    | cons first' later' =>
      obtain ⟨same, rest⟩ := List.cons.inj agree
      obtain ⟨shows, rfl⟩ := determined known call _ _ _ _ first first' same
      rw [List.zipWith_cons_cons, List.zipWith_cons_cons, shows, ih later' rest]

end ZephyrEsphome.Library.Refinement
