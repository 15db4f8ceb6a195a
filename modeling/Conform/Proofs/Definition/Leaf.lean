/-
**The results and the faults of leaves.**

What a leaf answers to a value other than null: what results are like, and from which values they
come.  All of it is read off the steps that scalars share, for one kind of scalar after the other.
Its faults are those of the value itself: a leaf has no parts, so no path leads into it.

Main definitions:

* `Pathless` — a fault is one of the value itself.

Main results:

* `ScalarKind.plain_eq_ok` — the results of a scalar without format;
* `ScalarKind.text_eq_ok` — the results of a text;
* `LeafType.kindsOf_eq_ok` — known kinds have the names that are listed;
* `LeafType.ne_null_of_answer` — no leaf answers null to another value;
* `LeafType.pathless_answer` — a fault of a leaf has no path.
-/

import Conform.Proofs.Bounds

set_option relaxedAutoImplicit false
set_option autoImplicit false

namespace Conform

/-! ### Kinds -/

theorem Kind.ofName?_eq_some {name : String} {k : Kind} : ofName? name = some k ↔ k.name = name := by
  constructor
  · intro h
    simpa using List.find?_some h
  · rintro rfl
    cases k <;> rfl

/-- Known kinds have the names that are listed. -/
theorem LeafType.kindsOf_eq_ok {names : List String} {known : List Kind} :
    kindsOf names = .ok known ↔ known.map Kind.name = names := by
  induction names generalizing known with
  | nil => cases known <;> simp [kindsOf]
  | cons name rest ih =>
      cases hk : Kind.ofName? name with
      | none =>
          simp only [kindsOf, hk, reduceCtorEq, false_iff]
          rintro hmap
          obtain ⟨k, others, rfl, hname, -⟩ := List.map_eq_cons_iff.1 hmap
          rw [Kind.ofName?_eq_some.2 hname] at hk
          cases hk
      | some k =>
          have hname := Kind.ofName?_eq_some.1 hk
          simp only [kindsOf, hk]
          constructor
          · intro h
            cases hrest : kindsOf rest with
            | error fault =>
                rw [hrest] at h
                cases h
            | ok others =>
                rw [hrest] at h
                cases h
                rw [List.map_cons, hname, ih.1 hrest]
          · intro h
            obtain ⟨k', others, rfl, hname', hothers⟩ := List.map_eq_cons_iff.1 h
            have hsame : k = k' :=
              Option.some.inj (hk.symm.trans (Kind.ofName?_eq_some.2 hname'))
            rw [ih.2 hothers, hsame]
            rfl

/-! ### Scalars -/

namespace ScalarKind

variable {μ : Type} [Comparable μ] {kind : ScalarKind μ} {bounds : Bounds μ} {v w : Value}

/-- A result of a scalar without format is what the conversion yields, if it keeps all demands. -/
theorem plain_eq_ok : kind.answer bounds none false v = .ok w ↔
    kind.coerce v = .ok w ∧ (kind.accepts = [] ∨ w.kind ∈ kind.accepts) ∧
      bounds.admits (kind.measure? w) = true := by
  have hstrip : ∀ u, Scalar.strip false u = u := by
    intro u
    cases u <;> rfl
  simp only [answer_eq_ok, hstrip, Scalar.checkFormat, true_and]
  constructor
  · rintro ⟨u, hu, hkind, hadmits, rfl⟩
    exact ⟨hu, hkind, hadmits⟩
  · rintro ⟨hu, hkind, hadmits⟩
    exact ⟨w, hu, hkind, hadmits, rfl⟩

/-- A result of an integer is that integer. -/
theorem int_eq_ok {bounds : Bounds Numeric} : int.answer bounds none false v = .ok w ↔
    ∃ n, v = .int n ∧ w = .int n ∧ bounds.admits (some (.int n)) = true := by
  rw [plain_eq_ok]
  constructor
  · rintro ⟨hw, hkind, hadmits⟩
    cases hw
    cases v with
    | int n => exact ⟨n, rfl, rfl, hadmits⟩
    | _ => simp [int, Value.kind] at hkind
  · rintro ⟨n, rfl, rfl, hadmits⟩
    exact ⟨rfl, by simp [int, Value.kind], hadmits⟩

/-- A result of a number is that number. -/
theorem float_eq_ok {bounds : Bounds Numeric} : float.answer bounds none false v = .ok w ↔
    w = v ∧ ∃ x, numeric? v = some x ∧ bounds.admits (some x) = true := by
  rw [plain_eq_ok]
  constructor
  · rintro ⟨hw, hkind, hadmits⟩
    cases hw
    cases v with
    | int n => exact ⟨rfl, .int n, rfl, hadmits⟩
    | float x => exact ⟨rfl, .float x, rfl, hadmits⟩
    | _ => simp [float, Value.kind] at hkind
  · rintro ⟨rfl, x, hx, hadmits⟩
    refine ⟨rfl, ?_, by rwa [show float.measure? w = some x from hx]⟩
    cases w with
    | int n => simp [float, Value.kind]
    | float x => simp [float, Value.kind]
    | _ => cases hx

theorem bool_eq_ok {bounds : Bounds Nat} : bool.answer bounds none false v = .ok w ↔
    ∃ b, v = .bool b ∧ w = .bool b := by
  rw [plain_eq_ok]
  constructor
  · rintro ⟨hw, hkind, -⟩
    cases hw
    cases v with
    | bool b => exact ⟨b, rfl, rfl⟩
    | _ => simp [bool, Value.kind] at hkind
  · rintro ⟨b, rfl, rfl⟩
    exact ⟨rfl, by simp [bool, Value.kind], rfl⟩

/-- A result of a text is that text, perhaps without its hyphens. -/
theorem text_eq_ok {bounds : Bounds Nat} {format : Option Format} {stripHyphens : Bool} :
    text.answer bounds format stripHyphens v = .ok w ↔
      ∃ s, v = .string s ∧ bounds.admits (some s.length) = true ∧
        (∀ f, format = some f → f.admits s = true) ∧
        w = .string (if stripHyphens then Scalar.withoutHyphens s else s) := by
  rw [answer_eq_ok]
  constructor
  · rintro ⟨u, hu, hkind, hadmits, hformat, rfl⟩
    cases hu
    cases v with
    | string s =>
        refine ⟨s, rfl, hadmits, ?_, rfl⟩
        rintro f rfl
        cases hf : f.admits s with
        | true => rfl
        | false => simp [Scalar.checkFormat, hf] at hformat
    | _ => simp [text, Value.kind] at hkind
  · rintro ⟨s, rfl, hadmits, hformat, rfl⟩
    refine ⟨.string s, rfl, by simp [text, Value.kind], hadmits, ?_, rfl⟩
    cases format with
    | none => rfl
    | some f => simp [Scalar.checkFormat, hformat f rfl]

theorem toDate_eq_ok (h : toDate v = .ok w) : ∃ d, w = .date d := by
  cases v with
  | date d => exact ⟨d, (Except.ok.inj h).symm⟩
  | datetime t => exact ⟨t.localDate, (Except.ok.inj h).symm⟩
  | string s =>
      obtain ⟨d, -, hd⟩ := map_eq_ok.1 h
      exact ⟨d, hd.symm⟩
  | int n =>
      obtain ⟨t, -, ht⟩ := map_eq_ok.1 h
      exact ⟨t.localDate, ht.symm⟩
  | float x =>
      obtain ⟨t, -, ht⟩ := map_eq_ok.1 h
      exact ⟨t.localDate, ht.symm⟩
  | _ => cases h

theorem toDateTime_eq_ok (h : toDateTime v = .ok w) : ∃ t, w = .datetime t := by
  cases v with
  | datetime t => exact ⟨t, (Except.ok.inj h).symm⟩
  | string s =>
      obtain ⟨t, -, ht⟩ := map_eq_ok.1 h
      exact ⟨t, ht.symm⟩
  | int n =>
      obtain ⟨t, -, ht⟩ := map_eq_ok.1 h
      exact ⟨t, ht.symm⟩
  | float x =>
      obtain ⟨t, -, ht⟩ := map_eq_ok.1 h
      exact ⟨t, ht.symm⟩
  | _ => cases h

/-- A result of a date is the date that the value denotes. -/
theorem date_eq_ok {bounds : Bounds Date} : date.answer bounds none false v = .ok w ↔
    ∃ d, toDate v = .ok (.date d) ∧ w = .date d ∧ bounds.admits (some d) = true := by
  rw [plain_eq_ok]
  constructor
  · rintro ⟨hw, -, hadmits⟩
    obtain ⟨d, rfl⟩ := toDate_eq_ok hw
    exact ⟨d, hw, rfl, hadmits⟩
  · rintro ⟨d, hd, rfl, hadmits⟩
    exact ⟨hd, by simp [date, Value.kind], hadmits⟩

/-- A result of an instant is the instant that the value denotes. -/
theorem datetime_eq_ok {bounds : Bounds DateTime} : datetime.answer bounds none false v = .ok w ↔
    ∃ t, toDateTime v = .ok (.datetime t) ∧ w = .datetime t ∧ bounds.admits (some t) = true := by
  rw [plain_eq_ok]
  constructor
  · rintro ⟨hw, -, hadmits⟩
    obtain ⟨t, rfl⟩ := toDateTime_eq_ok hw
    exact ⟨t, hw, rfl, hadmits⟩
  · rintro ⟨t, ht, rfl, hadmits⟩
    exact ⟨ht, by simp [datetime, Value.kind], hadmits⟩

end ScalarKind

/-! ### Leaves -/

namespace LeafType

variable {now : DateTime} {v w : Value}

theorem any_eq_ok {kinds : List String} : (any kinds).answer now v = .ok w ↔
    ∃ known, known.map Kind.name = kinds ∧ (known = [] ∨ v.kind ∈ known) ∧ w = v := by
  rw [answer, bind_eq_ok]
  refine exists_congr fun known => and_congr kindsOf_eq_ok ?_
  rw [bind_eq_ok]
  constructor
  · rintro ⟨⟨⟩, hkind, hw⟩
    cases hw
    exact ⟨Kind.expect_eq_ok.1 hkind, rfl⟩
  · rintro ⟨hkind, rfl⟩
    exact ⟨(), Kind.expect_eq_ok.2 hkind, rfl⟩

/-- No leaf answers null to another value. -/
theorem ne_null_of_answer {type : LeafType} (hv : v ≠ .null) (h : type.answer now v = .ok w) :
    w ≠ .null := by
  cases type with
  | any kinds =>
      obtain ⟨_, -, -, rfl⟩ := any_eq_ok.1 h
      exact hv
  | int min max =>
      obtain ⟨n, -, rfl, -⟩ := ScalarKind.int_eq_ok.1 h
      simp
  | float min max | number min max =>
      obtain ⟨rfl, -⟩ := ScalarKind.float_eq_ok.1 h
      exact hv
  | bool =>
      obtain ⟨b, -, rfl⟩ := ScalarKind.bool_eq_ok.1 h
      simp
  | string length | email length | uuid stripHyphens =>
      obtain ⟨s, -, -, -, rfl⟩ := ScalarKind.text_eq_ok.1 h
      simp
  | regex pattern length =>
      obtain ⟨format, -, h⟩ := bind_eq_ok.1 h
      obtain ⟨s, -, -, -, rfl⟩ := ScalarKind.text_eq_ok.1 h
      simp
  | date min max =>
      obtain ⟨bounds, -, h⟩ := bind_eq_ok.1 h
      obtain ⟨d, -, rfl, -⟩ := ScalarKind.date_eq_ok.1 h
      simp
  | datetime min max =>
      obtain ⟨bounds, -, h⟩ := bind_eq_ok.1 h
      obtain ⟨t, -, rfl, -⟩ := ScalarKind.datetime_eq_ok.1 h
      simp

end LeafType

/-! ### Faults of the value itself -/

/-- The fault, if there is one, is one of the value itself. -/
def Pathless {α : Type} (x : Except Fault α) : Prop := ∀ fault, x = .error fault → fault.path = ""

namespace Pathless

variable {α β : Type} {x : Except Fault α}

theorem ok (a : α) : Pathless (.ok a : Except Fault α) := FailsOnly.ok a

theorem error {fault : Fault} (h : fault.path = "") : Pathless (.error fault : Except Fault α) :=
  FailsOnly.error h

theorem bind {f : α → Except Fault β} (hx : Pathless x) (hf : ∀ a, Pathless (f a)) :
    Pathless (x >>= f) :=
  FailsOnly.bind hx hf

theorem map (f : α → β) (hx : Pathless x) : Pathless (f <$> x) := FailsOnly.map f hx

theorem mapError {ε : Type} {x : Except ε α} {f : ε → Fault} (hf : ∀ e, (f e).path = "") :
    Pathless (x.mapError f) :=
  FailsOnly.mapError hf

theorem mapM {f : α → Except Fault β} (hf : ∀ a, Pathless (f a)) (a : Option α) :
    Pathless (a.mapM f) :=
  FailsOnly.mapM hf a

end Pathless

theorem pathless_kindsOf (names : List String) : Pathless (LeafType.kindsOf names) := by
  induction names with
  | nil => exact .ok []
  | cons name rest ih =>
      rw [LeafType.kindsOf]
      split
      · exact .map _ ih
      · exact .error rfl

theorem pathless_expect (kinds : List Kind) (v : Value) : Pathless (Kind.expect kinds v) := by
  rw [Kind.expect, Property.checkKind]
  split
  · exact .ok ()
  · exact .error rfl

theorem pathless_bounds {α : Type} {parse : String → Except Fault α}
    (shift? : DateTime → Int → Option α) (first last : α) (now : DateTime)
    (min max : Option TimeBound) :
    Pathless (TimeBound.bounds parse shift? first last now min max) := by
  have hside : ∀ (fallback : α) (bound : TimeBound),
      Pathless (bound.resolve parse shift? fallback now) := by
    intro fallback bound
    cases bound with
    | literal text => exact .mapError fun _ => rfl
    | relative days => exact .ok _
  exact .bind (.mapM (hside last) min) fun _ => .bind (.mapM (hside first) max) fun _ => .ok _

theorem pathless_toInstant (v : Value) : Pathless v.toInstant := by
  rw [Value.toInstant]
  split
  · exact .ok _
  · exact .error rfl

theorem pathless_toDate (v : Value) : Pathless (ScalarKind.toDate v) := by
  cases v with
  | date d => exact .ok _
  | datetime t => exact .ok _
  | string s =>
      have hparse : Pathless (Date.parse s) := by
        unfold Date.parse
        exact .mapError fun _ => rfl
      exact hparse.map _
  | int n | float x => exact (pathless_toInstant _).map _
  | _ => exact .error rfl

theorem pathless_toDateTime (v : Value) : Pathless (ScalarKind.toDateTime v) := by
  cases v with
  | datetime t => exact .ok _
  | string s =>
      have hparse : Pathless (DateTime.parse s) := by
        unfold DateTime.parse
        exact .mapError fun _ => rfl
      exact hparse.map _
  | int n | float x => exact (pathless_toInstant _).map _
  | _ => exact .error rfl

theorem pathless_scalar {μ : Type} [Comparable μ] {kind : ScalarKind μ} {bounds : Bounds μ}
    {format : Option Format} {stripHyphens : Bool} (hcoerce : ∀ v, Pathless (kind.coerce v))
    (v : Value) : Pathless (kind.answer bounds format stripHyphens v) := by
  refine .bind (hcoerce v) fun u => .bind (pathless_expect _ u) fun _ => ?_
  have hformat : Pathless (Scalar.checkFormat format u) := by
    unfold Scalar.checkFormat
    split
    · split
      · exact .ok ()
      · exact .error rfl
    · exact .ok ()
  split
  · exact .bind hformat fun _ => .ok _
  · exact .error rfl

theorem pathless_membersOf (v : Value) : Pathless (Schema.membersOf v) := by
  cases v with
  | object members => exact .ok members
  | _ => exact .error rfl

theorem pathless_itemsOf (v : Value) : Pathless (ArrayProperty.itemsOf v) := by
  cases v with
  | array items => exact .ok items
  | _ => exact .error rfl

/-- A fault of a leaf is one of the value itself. -/
theorem LeafType.pathless_answer (now : DateTime) (type : LeafType) (v : Value) :
    Pathless (type.answer now v) := by
  have hok : ∀ u : Value, Pathless (Except.ok u : Except Fault Value) := Pathless.ok
  cases type with
  | any kinds =>
      exact (pathless_kindsOf kinds).bind fun known =>
        (pathless_expect known v).bind fun _ => .ok v
  | regex pattern length =>
      have hcompile : Pathless (Format.compile pattern) := by
        unfold Format.compile
        exact .mapError fun _ => rfl
      exact hcompile.bind fun _ => pathless_scalar hok v
  | date min max =>
      exact (pathless_bounds _ _ _ now min max).bind fun _ => pathless_scalar pathless_toDate v
  | datetime min max =>
      exact (pathless_bounds _ _ _ now min max).bind fun _ => pathless_scalar pathless_toDateTime v
  | _ => exact pathless_scalar hok v

end Conform
