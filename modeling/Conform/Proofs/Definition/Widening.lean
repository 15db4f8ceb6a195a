/-
**Wider leaves.**

A leaf becomes wider when a bound of it goes or moves outwards, or when it admits more kinds.  Whatever
it answered before, it still answers, and the same.  Bounds of dates and instants are compared as what
they are at a time: a text and a number of days from today may name the same day.

A wider leaf may name kinds that do not exist.  It has no validator then, so that it is left out here.

Main definitions:

* `Loosens`, `Widens` — a side of a pair of bounds goes or moves outwards, and both sides do;
* `TimeBound.Below` — the order of bounds of dates or instants at a time;
* `LeafType.Widens` — a leaf's type becomes wider.

Main results:

* `Bounds.admits_of_widens`, `TimeBound.exists_bounds_of_widens` — wider bounds admit what they did;
* `LeafType.answer_of_widens` — **a wider leaf answers what the leaf did**.
-/

import Conform.Proofs.Definition.Leaf
import Conform.Proofs.Definition.Simulation

set_option relaxedAutoImplicit false
set_option autoImplicit false

namespace Conform

theorem Kind.name_injective {k k' : Kind} (h : k.name = k'.name) : k = k' :=
  Option.some.inj ((ofName?_eq_some.2 h).symm.trans (ofName?_eq_some.2 rfl))

/-! ### Sides of bounds -/

/-- A side of a pair of bounds goes, or moves in the direction of `le`: a bound that is left was there
before, or another one from which it moved. -/
def Loosens {α : Type} (le : α → α → Prop) (side side' : Option α) : Prop :=
  ∀ a', side' = some a' → ∃ a, side = some a ∧ (a' = a ∨ le a a')

/-- A pair of bounds becomes wider: the lower one moves down, the upper one up, or they go. -/
def Widens {α : Type} (le : α → α → Prop) (min max min' max' : Option α) : Prop :=
  Loosens (fun a a' => le a' a) min min' ∧ Loosens le max max'

section Order

variable {α : Type} {le : α → α → Prop} {side side' side'' min max min' max' min'' max'' : Option α}

theorem Loosens.refl (le : α → α → Prop) (side : Option α) : Loosens le side side :=
  fun a' h => ⟨a', h, .inl rfl⟩

theorem Loosens.trans (hle : ∀ a b c, le a b → le b c → le a c) (h : Loosens le side side')
    (h' : Loosens le side' side'') : Loosens le side side'' := by
  intro c hc
  obtain ⟨b, hb, hbc⟩ := h' c hc
  obtain ⟨a, ha, hab⟩ := h b hb
  refine ⟨a, ha, ?_⟩
  rcases hbc with rfl | hbc
  · exact hab
  · rcases hab with rfl | hab
    · exact .inr hbc
    · exact .inr (hle a b c hab hbc)

theorem Widens.refl (le : α → α → Prop) (min max : Option α) : Widens le min max min max :=
  ⟨.refl _ min, .refl _ max⟩

theorem Widens.trans (hle : ∀ a b c, le a b → le b c → le a c) (h : Widens le min max min' max')
    (h' : Widens le min' max' min'' max'') : Widens le min max min'' max'' :=
  ⟨h.1.trans (fun a b c hab hbc => hle c b a hbc hab) h'.1, h.2.trans hle h'.2⟩

/-- Wider bounds admit what the bounds did, where what keeps a bound keeps every looser one. -/
theorem Bounds.admits_of_widens {μ : Type} [Comparable μ] {f : α → μ} {x : μ}
    (hleast : ∀ a a', le a' a → Range.atLeast x (f a) = true → Range.atLeast x (f a') = true)
    (hmost : ∀ b b', le b b' → Range.atMost x (f b) = true → Range.atMost x (f b') = true)
    (h : Widens le min max min' max')
    (hadmits : (Bounds.mk (min.map f) (max.map f)).admits (some x) = true) :
    (Bounds.mk (min'.map f) (max'.map f)).admits (some x) = true := by
  obtain ⟨hmin, hmax⟩ := admits_some.1 hadmits
  refine admits_some.2 ⟨fun y hy => ?_, fun y hy => ?_⟩
  · obtain ⟨a', ha', rfl⟩ := Option.map_eq_some_iff.1 hy
    obtain ⟨a, rfl, hle⟩ := h.1 a' ha'
    rcases hle with rfl | hle
    · exact hmin _ rfl
    · exact hleast a a' hle (hmin _ rfl)
  · obtain ⟨b', hb', rfl⟩ := Option.map_eq_some_iff.1 hy
    obtain ⟨b, rfl, hle⟩ := h.2 b' hb'
    rcases hle with rfl | hle
    · exact hmax _ rfl
    · exact hmost b b' hle (hmax _ rfl)

end Order

/-! ### Numbers -/

namespace Binary64

/-- The number is at most the other, which holds of no NaN. -/
def AtMost (x y : Binary64) : Prop := ¬ x.IsNaN ∧ ¬ y.IsNaN ∧ x.order ≤ y.order

instance (x y : Binary64) : Decidable (x.AtMost y) := inferInstanceAs (Decidable (_ ∧ _))

theorem AtMost.trans {x y z : Binary64} (h : x.AtMost y) (h' : y.AtMost z) : x.AtMost z :=
  ⟨h.1, h'.2.1, h.2.2.trans h'.2.2⟩

end Binary64

namespace Range

/-- A number is compared with a float as the float nearest to it. -/
theorem compare?_float (x : Numeric) (a : Binary64) :
    Comparable.compare? x (.float a) = Binary64.compare? x.toFloat a := by
  cases x <;> rfl

theorem atMost_float {x : Numeric} {b : Binary64} :
    atMost x (.float b) = true ↔ x.toFloat.AtMost b := by
  by_cases hnan : x.toFloat.IsNaN ∨ b.IsNaN
  · have hcompare : Comparable.compare? x (.float b) = none := by
      rw [compare?_float, Binary64.compare?, if_pos hnan]
    simp only [atMost, hcompare, Bool.false_eq_true, false_iff]
    exact fun h => hnan.elim h.1 h.2.1
  · have hcompare : Comparable.compare? x (.float b) = some (compare x.toFloat.order b.order) := by
      rw [compare?_float, Binary64.compare?, if_neg hnan]
    rw [atMost_eq hcompare, Int.isLE_compare]
    exact ⟨fun h => ⟨fun hx => hnan (.inl hx), fun hb => hnan (.inr hb), h⟩, fun h => h.2.2⟩

theorem atLeast_float {x : Numeric} {a : Binary64} :
    atLeast x (.float a) = true ↔ a.AtMost x.toFloat := by
  by_cases hnan : x.toFloat.IsNaN ∨ a.IsNaN
  · have hcompare : Comparable.compare? x (.float a) = none := by
      rw [compare?_float, Binary64.compare?, if_pos hnan]
    simp only [atLeast, hcompare, Bool.false_eq_true, false_iff]
    exact fun h => hnan.elim h.2.1 h.1
  · have hcompare : Comparable.compare? x (.float a) = some (compare x.toFloat.order a.order) := by
      rw [compare?_float, Binary64.compare?, if_neg hnan]
    rw [atLeast_eq hcompare, Int.isGE_compare]
    exact ⟨fun h => ⟨fun ha => hnan (.inr ha), fun hx => hnan (.inl hx), h⟩, fun h => h.2.2⟩

end Range

/-! ### Dates and instants -/

/-- The one date does not lie after the other. -/
def Date.NotAfter (a b : Date) : Prop := a.day ≤ b.day

theorem Date.notAfter_trans (a b c : Date) (h : a.NotAfter b) (h' : b.NotAfter c) : a.NotAfter c :=
  Int.le_trans h h'

theorem DateTime.notAfter_trans (a b c : DateTime) (h : a.NotAfter b) (h' : b.NotAfter c) :
    a.NotAfter c := by
  unfold NotAfter at *
  omega

namespace TimeBound

variable {α : Type} {parse : String → Except Fault α} {shift? : DateTime → Int → Option α}
  {now : DateTime} {le : α → α → Prop} {bound bound' bound'' : TimeBound} {a : α}

/-- What a bound is at a time, if it is a bound and leads to a supported date. -/
def at? (parse : String → Except Fault α) (shift? : DateTime → Int → Option α) (now : DateTime) :
    TimeBound → Option α
  | literal text => (parse text).toOption
  | relative days => shift? now days.toInt

/-- At a time, the one bound lies at the other or before it, in the order `le`. -/
def Below (le : α → α → Prop) (parse : String → Except Fault α)
    (shift? : DateTime → Int → Option α) (now : DateTime) (bound bound' : TimeBound) : Prop :=
  ∃ a a', bound.at? parse shift? now = some a ∧ bound'.at? parse shift? now = some a' ∧ le a a'

theorem Below.trans (hle : ∀ a b c, le a b → le b c → le a c)
    (h : Below le parse shift? now bound bound') (h' : Below le parse shift? now bound' bound'') :
    Below le parse shift? now bound bound'' := by
  obtain ⟨a, b, ha, hb, hab⟩ := h
  obtain ⟨b', c, hb', hc, hbc⟩ := h'
  obtain rfl := Option.some.inj (hb.symm.trans hb')
  exact ⟨a, c, ha, hc, hle a b c hab hbc⟩

/-- Fewer days from today lead to an earlier date. -/
theorem below_shiftDate? {days days' : Int64} (hle : days ≤ days')
    (h : (relative days).Resolves Date.parse DateTime.shiftDate? now)
    (h' : (relative days').Resolves Date.parse DateTime.shiftDate? now) :
    Below Date.NotAfter Date.parse DateTime.shiftDate? now (relative days) (relative days') := by
  obtain ⟨a, ha⟩ := h
  obtain ⟨a', ha'⟩ := h'
  refine ⟨a, a', ha, ha', ?_⟩
  have hdays : days.toInt ≤ days'.toInt := Int64.le_iff_toInt_le.1 hle
  simp only [DateTime.shiftDate?, Option.ite_none_right_eq_some] at ha ha'
  obtain ⟨-, ha⟩ := ha
  obtain ⟨-, ha'⟩ := ha'
  cases ha
  cases ha'
  exact Int.add_le_add_left hdays _

/-- Whatever stands in for a bound out of reach, one within reach is resolved to what it is. -/
theorem resolve_of_at? (h : bound.at? parse shift? now = some a) (fallback : α) :
    bound.resolve parse shift? fallback now = .ok a := by
  cases bound with
  | literal text =>
      cases hp : parse text with
      | error fault => simp [at?, hp, Except.toOption] at h
      | ok b => simpa [at?, resolve, hp, Except.toOption] using h
  | relative days =>
      rw [resolve, show shift? now days.toInt = some a from h]
      rfl

/-- A side that is loosened is resolved if it was before, to something looser. -/
theorem exists_mapM_of_loosens {R : TimeBound → TimeBound → Prop} {fallback : α}
    {side side' : Option TimeBound} {out : Option α}
    (hR : ∀ bound bound', R bound bound' → ∃ a a', bound.at? parse shift? now = some a ∧
      bound'.at? parse shift? now = some a' ∧ le a a')
    (h : Loosens R side side')
    (hout : side.mapM (resolve parse shift? fallback now) = .ok out) :
    ∃ out', side'.mapM (resolve parse shift? fallback now) = .ok out' ∧ Loosens le out out' := by
  cases side' with
  | none => exact ⟨none, rfl, nofun⟩
  | some bound' =>
      obtain ⟨bound, rfl, hmoved⟩ := h bound' rfl
      obtain ⟨x, hx, rfl⟩ := map_eq_ok.1 hout
      rcases hmoved with rfl | hmoved
      · exact ⟨some x, hout, .refl le _⟩
      · obtain ⟨a, a', ha, ha', hle⟩ := hR bound bound' hmoved
        obtain rfl := Except.ok.inj ((resolve_of_at? ha fallback).symm.trans hx)
        refine ⟨some a', map_eq_ok.2 ⟨a', resolve_of_at? ha' fallback, rfl⟩, ?_⟩
        rintro _ ⟨⟩
        exact ⟨a, rfl, .inr hle⟩

/-- Wider bounds can be resolved if the bounds can, and admit what they do. -/
theorem exists_bounds_of_widens [Comparable α] {first last : α} {min max min' max' : Option TimeBound}
    {bounds : Bounds α} (hle : ∀ a b c, le a b → le b c → le a c)
    (hleast : ∀ {x a : α}, Range.atLeast x a = true ↔ le a x)
    (hmost : ∀ {x b : α}, Range.atMost x b = true ↔ le x b)
    (h : Widens (Below le parse shift? now) min max min' max')
    (hbounds : TimeBound.bounds parse shift? first last now min max = .ok bounds) :
    ∃ bounds', TimeBound.bounds parse shift? first last now min' max' = .ok bounds' ∧
      ∀ x, bounds.admits (some x) = true → bounds'.admits (some x) = true := by
  obtain ⟨lower, hlower, hbounds⟩ := bind_eq_ok.1 hbounds
  obtain ⟨upper, hupper, hbounds⟩ := bind_eq_ok.1 hbounds
  cases hbounds
  have hmin : ∀ b b', Below le parse shift? now b' b → ∃ a a', b.at? parse shift? now = some a ∧
      b'.at? parse shift? now = some a' ∧ le a' a :=
    fun b b' ⟨a', a, ha', ha, hle⟩ => ⟨a, a', ha, ha', hle⟩
  obtain ⟨lower', hlower', hdown⟩ := exists_mapM_of_loosens hmin h.1 hlower
  obtain ⟨upper', hupper', hup⟩ := exists_mapM_of_loosens (fun _ _ h => h) h.2 hupper
  refine ⟨⟨lower', upper'⟩, bind_eq_ok.2 ⟨lower', hlower', bind_eq_ok.2 ⟨upper', hupper', rfl⟩⟩, ?_⟩
  intro x hadmits
  have hwider := Bounds.admits_of_widens (f := id) (x := x)
    (fun a a' hle' ha => hleast.2 (hle a' a x hle' (hleast.1 ha)))
    (fun b b' hle' hb => hmost.2 (hle x b b' (hmost.1 hb) hle')) ⟨hdown, hup⟩
  simp only [Option.map_id_fun, id_eq] at hwider
  exact hwider hadmits

end TimeBound

/-! ### Lengths -/

namespace LengthBounds

/-- The bounds of a length become wider. -/
def Widens (length length' : LengthBounds) : Prop :=
  Conform.Widens (· ≤ ·) length.min length.max length'.min length'.max

theorem Widens.refl (length : LengthBounds) : length.Widens length := Conform.Widens.refl _ _ _

theorem Widens.trans {length length' length'' : LengthBounds} (h : length.Widens length')
    (h' : length'.Widens length'') : length.Widens length'' :=
  Conform.Widens.trans (fun _ _ _ => UInt64.le_trans) h h'

/-- Wider bounds admit every length that the bounds did. -/
theorem admits_of_widens {length length' : LengthBounds} {n : Nat} (h : length.Widens length')
    (hadmits : length.bounds.admits (some n) = true) : length'.bounds.admits (some n) = true :=
  Bounds.admits_of_widens
    (fun _ _ hle ha => Range.atLeast_nat.2 (hle.trans (Range.atLeast_nat.1 ha)))
    (fun _ _ hle hb => Range.atMost_nat.2 ((Range.atMost_nat.1 hb).trans hle)) h hadmits

end LengthBounds

/-! ### Leaves -/

namespace LeafType

/-- A leaf's type becomes wider at a time: its bounds do, or its kinds become more or all. -/
inductive Widens (now : DateTime) : LeafType → LeafType → Prop
  | kinds {kinds kinds' : List String} : kinds ≠ [] → kinds ⊆ kinds' →
      Widens now (any kinds) (any kinds')
  | allKinds {kinds : List String} : Widens now (any kinds) (any [])
  | int {min max min' max' : Option Int64} : Conform.Widens (· ≤ ·) min max min' max' →
      Widens now (int min max) (int min' max')
  | float {min max min' max' : Option Binary64} :
      Conform.Widens Binary64.AtMost min max min' max' →
      Widens now (float min max) (float min' max')
  | number {min max min' max' : Option Binary64} :
      Conform.Widens Binary64.AtMost min max min' max' →
      Widens now (number min max) (number min' max')
  | bool : Widens now bool bool
  | string {length length' : LengthBounds} : length.Widens length' →
      Widens now (string length) (string length')
  | regex {pattern : String} {length length' : LengthBounds} : length.Widens length' →
      Widens now (regex pattern length) (regex pattern length')
  | email {length length' : LengthBounds} : length.Widens length' →
      Widens now (email length) (email length')
  | uuid {stripHyphens : Bool} : Widens now (uuid stripHyphens) (uuid stripHyphens)
  | date {min max min' max' : Option TimeBound} :
      Conform.Widens (TimeBound.Below Date.NotAfter Date.parse DateTime.shiftDate? now)
        min max min' max' → Widens now (date min max) (date min' max')
  | datetime {min max min' max' : Option TimeBound} :
      Conform.Widens (TimeBound.Below DateTime.NotAfter DateTime.parse DateTime.addDays? now)
        min max min' max' → Widens now (datetime min max) (datetime min' max')

variable {now start : DateTime} {type type' type'' : LeafType} {v w : Value}

theorem Widens.refl (type : LeafType) : type.Widens now type := by
  cases type with
  | any kinds =>
      by_cases hkinds : kinds = []
      · subst hkinds
        exact .allKinds
      · exact .kinds hkinds fun _ h => h
  | int min max => exact .int (.refl _ _ _)
  | float min max => exact .float (.refl _ _ _)
  | number min max => exact .number (.refl _ _ _)
  | bool => exact .bool
  | string length => exact .string (.refl _)
  | regex pattern length => exact .regex (.refl _)
  | email length => exact .email (.refl _)
  | uuid stripHyphens => exact .uuid
  | date min max => exact .date (.refl _ _ _)
  | datetime min max => exact .datetime (.refl _ _ _)

theorem Widens.trans (h : type.Widens now type') (h' : type'.Widens now type'') :
    type.Widens now type'' := by
  cases h with
  | kinds hne hsub =>
      cases h' with
      | kinds _ hsub' => exact .kinds hne fun _ hk => hsub' (hsub hk)
      | allKinds => exact .allKinds
  | allKinds =>
      cases h' with
      | kinds hne _ => exact absurd rfl hne
      | allKinds => exact .allKinds
  | int hbounds =>
      cases h' with
      | int hbounds' => exact .int (hbounds.trans (fun _ _ _ => Int64.le_trans) hbounds')
  | float hbounds =>
      cases h' with
      | float hbounds' => exact .float (hbounds.trans (fun _ _ _ => Binary64.AtMost.trans) hbounds')
  | number hbounds =>
      cases h' with
      | number hbounds' => exact .number (hbounds.trans (fun _ _ _ => Binary64.AtMost.trans) hbounds')
  | bool => exact h'
  | string hlength =>
      cases h' with
      | string hlength' => exact .string (hlength.trans hlength')
  | regex hlength =>
      cases h' with
      | regex hlength' => exact .regex (hlength.trans hlength')
  | email hlength =>
      cases h' with
      | email hlength' => exact .email (hlength.trans hlength')
  | uuid => exact h'
  | date hbounds =>
      cases h' with
      | date hbounds' =>
          exact .date
            (hbounds.trans (fun _ _ _ => TimeBound.Below.trans Date.notAfter_trans) hbounds')
  | datetime hbounds =>
      cases h' with
      | datetime hbounds' =>
          exact .datetime
            (hbounds.trans (fun _ _ _ => TimeBound.Below.trans DateTime.notAfter_trans) hbounds')

/-- **A wider leaf answers what the leaf did**, if its kinds exist. -/
theorem answer_of_widens (h : type.Widens now type') (hsound : type'.Sound start)
    (hanswer : type.answer now v = .ok w) : type'.answer now v = .ok w := by
  cases h with
  | kinds hne hsub =>
      obtain ⟨known, rfl, hkind, rfl⟩ := any_eq_ok.1 hanswer
      obtain ⟨known', hknown'⟩ := hsound
      have hnames' := kindsOf_eq_ok.1 hknown'
      refine any_eq_ok.2 ⟨known', hnames', .inr ?_, rfl⟩
      have hmem : w.kind ∈ known := hkind.resolve_left fun hnil => hne (by rw [hnil, List.map_nil])
      -- a kind is listed exactly if its name is
      have hname := hsub (List.mem_map_of_mem hmem)
      rw [← hnames'] at hname
      obtain ⟨kind, hkind', hsame⟩ := List.mem_map.1 hname
      rwa [← Kind.name_injective hsame]
  | allKinds =>
      obtain ⟨_, -, -, rfl⟩ := any_eq_ok.1 hanswer
      exact any_eq_ok.2 ⟨[], rfl, .inl rfl, rfl⟩
  | int hbounds =>
      obtain ⟨n, rfl, rfl, hadmits⟩ := ScalarKind.int_eq_ok.1 hanswer
      refine ScalarKind.int_eq_ok.2 ⟨n, rfl, rfl, Bounds.admits_of_widens ?_ ?_ hbounds hadmits⟩
      · exact fun a a' hle ha => Range.atLeast_int.2 (Int64.le_trans hle (Range.atLeast_int.1 ha))
      · exact fun b b' hle hb => Range.atMost_int.2 (Int64.le_trans (Range.atMost_int.1 hb) hle)
  | float hbounds | number hbounds =>
      obtain ⟨rfl, x, hx, hadmits⟩ := ScalarKind.float_eq_ok.1 hanswer
      refine ScalarKind.float_eq_ok.2 ⟨rfl, x, hx, Bounds.admits_of_widens ?_ ?_ hbounds hadmits⟩
      · exact fun a a' hle ha => Range.atLeast_float.2 (hle.trans (Range.atLeast_float.1 ha))
      · exact fun b b' hle hb => Range.atMost_float.2 ((Range.atMost_float.1 hb).trans hle)
  | bool => exact hanswer
  | string hlength | email hlength =>
      obtain ⟨s, rfl, hadmits, hformat, rfl⟩ := ScalarKind.text_eq_ok.1 hanswer
      exact ScalarKind.text_eq_ok.2
        ⟨s, rfl, LengthBounds.admits_of_widens hlength hadmits, hformat, rfl⟩
  | regex hlength =>
      obtain ⟨format, hcompile, htext⟩ := bind_eq_ok.1 hanswer
      obtain ⟨s, rfl, hadmits, hformat, rfl⟩ := ScalarKind.text_eq_ok.1 htext
      exact bind_eq_ok.2 ⟨format, hcompile, ScalarKind.text_eq_ok.2
        ⟨s, rfl, LengthBounds.admits_of_widens hlength hadmits, hformat, rfl⟩⟩
  | uuid => exact hanswer
  | date hbounds =>
      obtain ⟨bounds, hresolved, hdate⟩ := bind_eq_ok.1 hanswer
      obtain ⟨d, hd, rfl, hadmits⟩ := ScalarKind.date_eq_ok.1 hdate
      obtain ⟨bounds', hresolved', hwider⟩ := TimeBound.exists_bounds_of_widens
        Date.notAfter_trans Range.atLeast_date Range.atMost_date hbounds hresolved
      exact bind_eq_ok.2
        ⟨bounds', hresolved', ScalarKind.date_eq_ok.2 ⟨d, hd, rfl, hwider d hadmits⟩⟩
  | datetime hbounds =>
      obtain ⟨bounds, hresolved, hdatetime⟩ := bind_eq_ok.1 hanswer
      obtain ⟨t, ht, rfl, hadmits⟩ := ScalarKind.datetime_eq_ok.1 hdatetime
      obtain ⟨bounds', hresolved', hwider⟩ := TimeBound.exists_bounds_of_widens
        DateTime.notAfter_trans Range.atLeast_datetime Range.atMost_datetime hbounds hresolved
      exact bind_eq_ok.2
        ⟨bounds', hresolved', ScalarKind.datetime_eq_ok.2 ⟨t, ht, rfl, hwider t hadmits⟩⟩

end LeafType

end Conform
