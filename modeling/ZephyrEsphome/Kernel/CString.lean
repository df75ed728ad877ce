/- Digest: Strings that end at their first zero byte, and their comparison. -/

set_option autoImplicit false
set_option relaxedAutoImplicit false

namespace ZephyrEsphome.Kernel

structure CString where
  bytes : List UInt8
  noNul : 0 ∉ bytes
  deriving DecidableEq

namespace CString

/-- What C sees of a buffer that holds `bytes` and a terminator. -/
def ofBytes (bytes : List UInt8) : CString where
  bytes := bytes.takeWhile (· ≠ 0)
  noNul := by
    intro member
    have nonzero := List.all_eq_true.mp List.all_takeWhile 0 member
    simp at nonzero

end CString

def firstDifference : List UInt8 → List UInt8 → Int
  | [], [] => 0
  | [], b :: _ => -b.toNat
  | a :: _, [] => a.toNat
  | a :: as, b :: bs => if a = b then firstDifference as bs else (a.toNat : Int) - b.toNat

/-- `strcmp`. -/
def strcmp (s t : CString) : Int :=
  firstDifference s.bytes t.bytes

private theorem toNat_ne_zero {b : UInt8} (nonzero : b ≠ 0) : b.toNat ≠ 0 :=
  fun zero => nonzero (UInt8.toNat_inj.mp zero)

private theorem firstDifference_eq_zero (as : List UInt8) : ∀ bs : List UInt8, 0 ∉ as → 0 ∉ bs →
    (firstDifference as bs = 0 ↔ as = bs) := by
  induction as with
  | nil =>
    intro bs _ noNul'
    cases bs with
    | nil => exact ⟨fun _ => rfl, fun _ => rfl⟩
    | cons b bs =>
      have nonzero := toNat_ne_zero (fun zero => noNul' (zero ▸ List.mem_cons_self))
      simp only [firstDifference, reduceCtorEq, iff_false]
      omega
  | cons a as ih =>
    intro bs noNul noNul'
    cases bs with
    | nil =>
      have nonzero := toNat_ne_zero (fun zero => noNul (zero ▸ List.mem_cons_self))
      simp only [firstDifference, reduceCtorEq, iff_false]
      omega
    | cons b bs =>
      by_cases same : a = b
      · subst same
        have rest := ih bs (fun h => noNul (List.mem_cons_of_mem a h))
          (fun h => noNul' (List.mem_cons_of_mem a h))
        simp [firstDifference, rest]
      · have differ : a.toNat ≠ b.toNat := fun h => same (UInt8.toNat_inj.mp h)
        simp only [firstDifference, List.cons.injEq, same, false_and, iff_false, if_false]
        omega

theorem strcmp_eq_zero (s t : CString) : strcmp s t = 0 ↔ s = t := by
  have bytes := firstDifference_eq_zero s.bytes t.bytes s.noNul t.noNul
  constructor
  · intro zero
    cases s
    cases t
    simpa using bytes.mp zero
  · rintro rfl
    exact bytes.mpr rfl

end ZephyrEsphome.Kernel
