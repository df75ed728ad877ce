/- Digest: The image slot behind `flash_img`, written from its start on. -/

import ZephyrEsphome.Kernel.Basic

set_option autoImplicit false
set_option relaxedAutoImplicit false

namespace ZephyrEsphome.Kernel

/-- A `flash_img` context and its slot. -/
structure FlashImg where
  capacity : Nat
  /-- The slot's contents from offset 0 up to the context's offset. -/
  written : List UInt8
  /-- What the next calls return when it is not 0; once it is used up only the capacity counts. -/
  outcomes : List Int

namespace FlashImg

/-- `flash_img_init`. -/
def flashImgInit (flash : FlashImg) : Int × FlashImg :=
  let ret := flash.outcomes.headD 0
  if ret ≠ 0 then (ret, { flash with outcomes := flash.outcomes.tail })
  else (0, { flash with written := [], outcomes := flash.outcomes.tail })

/-- `flash_img_buffered_write`: the bytes go where the last successful write ended. -/
def flashImgBufferedWrite (flash : FlashImg) (buf : List UInt8) : Int × FlashImg :=
  let ret := flash.outcomes.headD 0
  if ret ≠ 0 then (ret, { flash with outcomes := flash.outcomes.tail })
  else if flash.written.length + buf.length ≤ flash.capacity then
    (0, { flash with written := flash.written ++ buf, outcomes := flash.outcomes.tail })
  else (-enomem, { flash with outcomes := flash.outcomes.tail })

theorem flashImgBufferedWrite_zero {flash : FlashImg} {buf : List UInt8}
    (h : (flash.flashImgBufferedWrite buf).1 = 0) :
    (flash.flashImgBufferedWrite buf).2 =
        { flash with written := flash.written ++ buf, outcomes := flash.outcomes.tail } ∧
      flash.written.length + buf.length ≤ flash.capacity := by
  unfold flashImgBufferedWrite at h ⊢
  by_cases refused : flash.outcomes.headD 0 ≠ 0
  · simp only [if_pos refused] at h
    exact absurd h refused
  · by_cases fits : flash.written.length + buf.length ≤ flash.capacity
    · simp only [if_neg refused, if_pos fits]
      exact ⟨trivial, fits⟩
    · simp only [if_neg refused, if_neg fits, enomem] at h
      exact absurd h (by decide)

theorem flashImgBufferedWrite_fits {flash : FlashImg} (plain : flash.outcomes = [])
    {buf : List UInt8} (fits : flash.written.length + buf.length ≤ flash.capacity) :
    flash.flashImgBufferedWrite buf = (0, { flash with written := flash.written ++ buf }) := by
  unfold flashImgBufferedWrite
  simp [plain, fits]

end FlashImg

end ZephyrEsphome.Kernel
