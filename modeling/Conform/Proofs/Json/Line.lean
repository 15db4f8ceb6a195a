/-
**A compact document stands on one line.**

A text is written of digits, letters and signs; the controls in a string are escaped.  So a compact
text, which has no blanks between its parts, holds no control at all, and nothing in it ends the line.

Main definitions:

* `Json.Visible` — a text without controls.

Main results:

* `Json.visible_escaped` — whatever stands in a string, nothing of it is written as a control;
* `Json.visible_compactChars` — **a compact text holds no controls**;
* `Json.newline_not_mem_compact` — **it stands on one line**.
-/

import Conform.Proofs.Json.Text

set_option relaxedAutoImplicit false
set_option autoImplicit false

namespace Conform

namespace Json

/-- The text holds no controls. -/
def Visible (cs : List Char) : Prop := ∀ c ∈ cs, 0x20 ≤ c.toNat

theorem visible_nil : Visible [] := List.forall_mem_nil _

theorem visible_cons {c : Char} {cs : List Char} : Visible (c :: cs) ↔ 0x20 ≤ c.toNat ∧ Visible cs :=
  List.forall_mem_cons

theorem visible_append {cs ds : List Char} : Visible (cs ++ ds) ↔ Visible cs ∧ Visible ds :=
  List.forall_mem_append

theorem Visible.sublist {cs ds : List Char} (h : Visible ds) (hsub : cs.Sublist ds) : Visible cs :=
  fun c hc => h c (hsub.subset hc)

/-! ### Strings -/

/-- A control is written with its two digits. -/
theorem visible_hexDigit {n : ℕ} (h : n < 16) : 0x20 ≤ (hexDigit n).toNat := by
  interval_cases n <;> decide

theorem visible_escaped (c : Char) : Visible (escaped c) := by
  have hhigh : c.toNat < 0x20 → 0x20 ≤ (hexDigit (c.toNat / 16)).toNat :=
    fun h => visible_hexDigit (by omega)
  have hlow : 0x20 ≤ (hexDigit (c.toNat % 16)).toNat := visible_hexDigit (by omega)
  unfold escaped
  -- a backslash and a letter, but for other controls and for what stands for itself
  split_ifs with _ _ _ _ _ _ _ hcontrol <;> simp [Visible]
  · exact ⟨hhigh hcontrol, hlow⟩
  · exact Nat.le_of_not_lt hcontrol

theorem visible_quotedChars (s : List Char) : Visible (quotedChars s) := by
  refine visible_cons.2 ⟨by decide, visible_append.2 ⟨fun c hc => ?_, ?_⟩⟩
  · obtain ⟨written, -, hc⟩ := List.mem_flatMap.1 hc
    exact visible_escaped written c hc
  · exact List.forall_mem_singleton.2 (by decide)

/-! ### Numbers -/

theorem visible_digitChars (n : ℕ) : Visible (Decimal.digitChars n) := by
  intro c hc
  have hdigit : c.isDigit = true := Source.isDigit_of_mem_digitChars hc
  simp only [Char.isDigit, Bool.and_eq_true, decide_eq_true_eq] at hdigit
  have hle : '0'.toNat ≤ c.toNat := hdigit.1
  have hzero : '0'.toNat = 0x30 := rfl
  omega

theorem visible_zeros (n : ℕ) : Visible (List.replicate n '0') := by
  intro c hc
  obtain rfl := List.eq_of_mem_replicate hc
  decide

theorem visible_integerChars (n : ℤ) : Visible (integerChars n) := by
  unfold integerChars
  split
  · exact visible_cons.2 ⟨by decide, visible_digitChars _⟩
  · exact visible_digitChars _

theorem visible_positional (d : Decimal) {mark : List Char} (hmark : Visible mark) :
    Visible (d.positional mark) := by
  unfold Decimal.positional
  split
  · exact visible_append.2 ⟨visible_append.2 ⟨visible_digitChars _, visible_zeros _⟩, hmark⟩
  · simp only
    split
    · refine visible_append.2 ⟨(visible_digitChars _).sublist (List.take_sublist ..), ?_⟩
      exact visible_cons.2 ⟨by decide, (visible_digitChars _).sublist (List.drop_sublist ..)⟩
    · refine visible_cons.2 ⟨by decide, visible_cons.2 ⟨by decide, ?_⟩⟩
      exact visible_append.2 ⟨visible_zeros _, visible_digitChars _⟩

theorem visible_scientific (d : Decimal) {plus : List Char} (hplus : Visible plus) :
    Visible (d.scientific plus) := by
  have hdigits : Visible (Decimal.digitChars d.digits) := visible_digitChars _
  unfold Decimal.scientific
  refine visible_append.2 ⟨?_, visible_cons.2 ⟨by decide, visible_append.2 ⟨?_, visible_digitChars _⟩⟩⟩
  · split
    · exact visible_nil
    · next heq => exact heq ▸ hdigits
    · next heq =>
        rw [heq] at hdigits
        obtain ⟨hc, hrest⟩ := visible_cons.1 hdigits
        exact visible_cons.2 ⟨hc, visible_cons.2 ⟨by decide, hrest⟩⟩
  · split
    · exact List.forall_mem_singleton.2 (by decide)
    · exact hplus

theorem visible_floatChars (x : Binary64) : Visible (floatChars x) := by
  unfold floatChars
  split
  · refine visible_append.2 ⟨?_, ?_⟩
    · split
      · exact List.forall_mem_singleton.2 (by decide)
      · exact visible_nil
    · unfold Decimal.interchange
      simp only
      split
      · exact visible_positional _ (by simp [Visible])
      · exact visible_scientific _ (by simp [Visible])
  · simp [Visible]

/-! ### Documents -/

theorem visible_rows {α : Type} {text : α → List Char} {as : List α}
    (h : ∀ a ∈ as, Visible (text a)) : Visible (Source.rows [] text as) := by
  induction as with
  | nil => exact visible_nil
  | cons a as ih =>
      obtain ⟨ha, has⟩ := List.forall_mem_cons.1 h
      cases as with
      | nil => exact ha
      | cons b as => exact visible_append.2 ⟨ha, visible_cons.2 ⟨by decide, ih has⟩⟩

/-- **A compact text holds no controls.** -/
theorem visible_compactChars (j : Json) : Visible (compactChars j) := by
  induction j with
  | null => simp [compactChars, Visible]
  | bool b => cases b <;> simp [compactChars, Visible]
  | int n => exact visible_integerChars _
  | big n => exact visible_integerChars _
  | float x => exact visible_floatChars x
  | str s => exact visible_quotedChars _
  | arr items ih =>
      rw [compactChars, compactItems_eq_rows]
      refine visible_cons.2 ⟨by decide, visible_append.2 ⟨visible_rows ih, ?_⟩⟩
      exact List.forall_mem_singleton.2 (by decide)
  | obj members ih =>
      rw [compactChars, compactMembers_eq_rows]
      refine visible_cons.2 ⟨by decide, visible_append.2 ⟨visible_rows fun member hmember => ?_, ?_⟩⟩
      · exact visible_append.2 ⟨visible_quotedChars _, visible_cons.2 ⟨by decide, ih member hmember⟩⟩
      · exact List.forall_mem_singleton.2 (by decide)

/-- **A compact text stands on one line.** -/
theorem newline_not_mem_compact (j : Json) : '\n' ∉ j.compact.toList := by
  rw [compact, String.toList_ofList]
  exact fun hmem => absurd (visible_compactChars j '\n' hmem) (by decide)

end Json

end Conform
