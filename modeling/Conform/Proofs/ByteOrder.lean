/-
**The order of texts is the order of their bytes.**

Texts are compared by their characters, from left to right, and characters by their numbers.  In UTF-8
the bytes of a text are compared likewise, and the order is the same.  For the greater of two characters
has the greater bytes: where it has more of them, already the first byte is greater, and where both have
as many, the bytes hold the digits of the numbers to one base.

Main results:

* `Utf8.encodeChar_lt` — the greater character has the greater bytes, whatever follows;
* `Utf8.bytes_lt_iff` — **the lesser text has the lesser bytes**.
-/

import Conform.Proofs.Calendar.Bytes
import Mathlib

set_option relaxedAutoImplicit false
set_option autoImplicit false

namespace Conform

namespace Utf8

/-! ### Characters -/

theorem ofNat_lt_ofNat {a b : Nat} (ha : a < 256) (hb : b < 256) :
    UInt8.ofNat a < UInt8.ofNat b ↔ a < b := by
  simp [UInt8.lt_iff_toNat_lt, Nat.mod_eq_of_lt, ha, hb]

theorem ofNat_eq_ofNat {a b : Nat} (ha : a < 256) (hb : b < 256) :
    UInt8.ofNat a = UInt8.ofNat b ↔ a = b := by
  simp [← UInt8.toNat_inj, Nat.mod_eq_of_lt, ha, hb]

/-- Two numbers are compared by their last digits to the base 64 where all others agree. -/
theorem digits_le {m n : Nat} (h : m ≤ n) :
    m / 64 < n / 64 ∨ m / 64 = n / 64 ∧ m % 64 ≤ n % 64 := by omega

/-- The greater character has the greater bytes, whatever follows. -/
theorem encodeChar_lt {c d : Char} (h : c < d) (front back : List UInt8) :
    String.utf8EncodeChar c ++ front < String.utf8EncodeChar d ++ back := by
  have hlt : c.val.toNat < d.val.toNat := h
  have hd : d.val.toNat < 0xd800 ∨ 0xdfff < d.val.toNat ∧ d.val.toNat < 0x110000 := d.valid
  simp only [String.utf8EncodeChar]
  generalize c.val.toNat = m at *
  generalize d.val.toNat = n at *
  have hlast := digits_le hlt.le
  have hmiddle := digits_le (Nat.div_le_div_right hlt.le : m / 64 ≤ n / 64)
  have hfirst := digits_le (Nat.div_le_div_right hlt.le : m / 4096 ≤ n / 4096)
  rw [Nat.div_div_eq_div_mul, Nat.div_div_eq_div_mul] at hmiddle hfirst
  have hlimit : n / 262144 < 8 := by omega
  -- by the number of bytes of either character
  split_ifs <;>
    simp (disch := omega) only [List.cons_append, List.nil_append, List.cons_lt_cons_iff,
      ofNat_lt_ofNat, ofNat_eq_ofNat] <;>
    omega

/-! ### Texts -/

/-- The lesser characters have the lesser bytes. -/
theorem encode_lt {cs ds : List Char} (h : cs < ds) : encode cs < encode ds := by
  induction ds generalizing cs with
  | nil => exact absurd h (List.not_lt_nil cs)
  | cons d ds ih =>
      cases cs with
      | nil =>
          obtain ⟨b, bs, hbytes⟩ := List.exists_cons_of_ne_nil (String.utf8EncodeChar_ne_nil (c := d))
          show [] < String.utf8EncodeChar d ++ encode ds
          rw [hbytes]
          exact List.nil_lt_cons b _
      | cons c cs =>
          show String.utf8EncodeChar c ++ encode cs < String.utf8EncodeChar d ++ encode ds
          rcases List.cons_lt_cons_iff.1 h with hlt | ⟨rfl, hrest⟩
          · exact encodeChar_lt hlt _ _
          · exact List.append_left_lt (ih hrest)

/-- **The lesser text has the lesser bytes**, and no other has. -/
theorem bytes_lt_iff {s t : String} : bytes s < bytes t ↔ s < t := by
  have hbytes : ∀ {s t : String}, s < t → bytes s < bytes t := by
    intro s t h
    rw [bytes_eq_encode, bytes_eq_encode]
    exact encode_lt (String.lt_iff.1 h)
  refine ⟨fun h => ?_, hbytes⟩
  rcases lt_trichotomy s t with hlt | rfl | hgt
  · exact hlt
  · exact absurd h (List.lt_irrefl _)
  · exact absurd h (List.lt_asymm (hbytes hgt))

end Utf8

end Conform
