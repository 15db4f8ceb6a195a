/-
**Scalars that are validated again.**

Settings that hold nothing but fixed values make a scalar that answers alike at all times.  What it
answers, it has converted already, and a second validation converts it to itself.  So the second
validation can only differ from the first in what it measures: the range and the format see the
result, which has lost its hyphens if the scalar strips them, and the first time they saw the text.

A scalar that does not strip hyphens therefore answers its own results by themselves.  One that does
answers those of its results by themselves that keep its range and its format, and only those.  For
identifiers the format is kept in any case, since the hyphens in them may be left out; the length is
not, for the result has 32 characters and the text up to 36.

Main definitions:

* `ScalarKind.Standard`, `Scalar.Base` — the kinds of scalars, and the scalars to begin with;
* `Scalar.Setting.IsFixed`, `Scalar.Fixed` — settings and scalars with fixed values and no callback;
* `Scalar.Keeps` — a value keeps the range and the format of a scalar.

Main results:

* `Scalar.Fixed.adjust` — fixed settings leave a scalar fixed;
* `Scalar.validate_again` — **when a result is its own result**;
* `Scalar.not_validate_again` — a result may be refused;
* `Uuid.again_iff` — how long an identifier without hyphens may have to be;
* `Uuid.validate_uuid` — **what the scalar of identifiers accepts and yields**.
-/

import Conform.Proofs.Definition.Leaf
import Conform.Proofs.Definition.Simulation
import Conform.Proofs.Pattern.Uuid
import Conform.Validation.Settings

set_option relaxedAutoImplicit false
set_option autoImplicit false

namespace Conform

variable {m : Type → Type} {μ : Type} {now later : DateTime} {v w : Value}

/-- A provider of a fixed value yields it at all times. -/
theorem Provider.run_of_isLiteral {α : Type} {provider : Provider Clocked α}
    (h : provider.isLiteral = true) :
    provider.resolve.run now = provider.resolve.run later := by
  cases provider with
  | literal a => rfl
  | thunk action => cases h

/-! ### Kinds -/

/-- The kinds of scalars. -/
inductive ScalarKind.Standard : {μ : Type} → ScalarKind μ → Prop where
  | int : Standard ScalarKind.int
  | float : Standard ScalarKind.float
  | number : Standard ScalarKind.number
  | bool : Standard ScalarKind.bool
  | text : Standard ScalarKind.text
  | date : Standard ScalarKind.date
  | datetime : Standard ScalarKind.datetime

namespace ScalarKind

variable {kind : ScalarKind μ}

theorem Standard.accepts_ne_nil (h : kind.Standard) : kind.accepts ≠ [] := by
  cases h <;> exact List.cons_ne_nil _ _

theorem Standard.ne_null (h : kind.Standard) {u : Value} (hu : u.kind ∈ kind.accepts) :
    u ≠ .null := by
  rintro rfl
  cases h <;> simp [ScalarKind.int, ScalarKind.float, ScalarKind.number, ScalarKind.bool,
    ScalarKind.text, ScalarKind.date, ScalarKind.datetime, Value.kind] at hu

/-- What is of an accepted kind is left as it is by the conversion. -/
theorem Standard.coerce_self (h : kind.Standard) {u : Value} (hu : u.kind ∈ kind.accepts) :
    kind.coerce u = .ok u := by
  cases h with
  | int | float | number | bool | text => rfl
  | date =>
      cases u with
      | date d => rfl
      | _ => simp [ScalarKind.date, Value.kind] at hu
  | datetime =>
      cases u with
      | datetime t => rfl
      | _ => simp [ScalarKind.datetime, Value.kind] at hu

end ScalarKind

namespace Scalar

/-! ### Fixed scalars -/

/-- The setting holds a fixed value, and is no callback. -/
def Setting.IsFixed : Setting m μ → Prop
  | .min bound | .max bound => bound.isLiteral = true
  | .default value => value.isLiteral = true
  | .callback _ => False
  | .format _ | .stripHyphens _ | .nullable _ => True

/-- The scalar has fixed bounds, a fixed default if it has one, and no callback. -/
structure Fixed (scalar : Scalar m μ) : Prop where
  accepts : scalar.property.accepts = scalar.kind.accepts
  callback : scalar.property.callback = none
  default : ∀ value, scalar.property.default = some value → value.isLiteral = true
  min : ∀ bound, scalar.range.min = some bound → bound.isLiteral = true
  max : ∀ bound, scalar.range.max = some bound → bound.isLiteral = true

variable {scalar : Scalar m μ}

theorem fixed_of (kind : ScalarKind μ) : (of kind : Scalar m μ).Fixed :=
  ⟨rfl, rfl, by rintro _ ⟨⟩, by rintro _ ⟨⟩, by rintro _ ⟨⟩⟩

theorem Fixed.set (h : scalar.Fixed) {setting : Setting m μ} (hsetting : setting.IsFixed) :
    (scalar.set setting).Fixed := by
  cases setting with
  | min bound =>
      refine { h with min := ?_ }
      rintro _ ⟨⟩
      exact hsetting
  | max bound =>
      refine { h with max := ?_ }
      rintro _ ⟨⟩
      exact hsetting
  | default value =>
      refine { h with default := ?_ }
      rintro _ ⟨⟩
      exact hsetting
  | callback callback => exact hsetting.elim
  | format format => exact { h with }
  | stripHyphens strip => exact { h with }
  | nullable nullable => exact { h with }

/-- Fixed settings leave a scalar fixed. -/
theorem Fixed.adjust {settings : List (Setting m μ)} :
    ∀ {scalar : Scalar m μ}, scalar.Fixed → (∀ setting ∈ settings, setting.IsFixed) →
      (scalar.adjust settings).Fixed := by
  induction settings with
  | nil => exact fun h _ => h
  | cons setting rest ih =>
      intro scalar h hsettings
      obtain ⟨hsetting, hrest⟩ := List.forall_mem_cons.1 hsettings
      exact ih (h.set hsetting) hrest

theorem kind_set (setting : Setting m μ) : (scalar.set setting).kind = scalar.kind := by
  cases setting <;> rfl

/-- No setting changes the kind. -/
theorem kind_adjust {settings : List (Setting m μ)} :
    ∀ {scalar : Scalar m μ}, (scalar.adjust settings).kind = scalar.kind := by
  induction settings with
  | nil => exact rfl
  | cons setting rest ih => exact ih.trans (kind_set setting)

/-- The scalars from which others are made by settings. -/
inductive Base : {μ : Type} → Scalar m μ → Prop where
  | of {μ : Type} {kind : ScalarKind μ} (hkind : kind.Standard) : Base (of kind)
  | regex {pattern : String} {scalar : Scalar m Nat} (h : regex pattern = .ok scalar) : Base scalar
  | email : Base email
  | uuid : Base uuid

theorem Base.fixed (h : scalar.Base) : scalar.Fixed := by
  cases h with
  | of hkind => exact fixed_of _
  | regex h =>
      obtain ⟨format, -, rfl⟩ := map_eq_ok.1 h
      exact (fixed_of .text).set trivial
  | email | uuid => exact (fixed_of .text).set trivial

theorem Base.standard (h : scalar.Base) : scalar.kind.Standard := by
  cases h with
  | of hkind => exact hkind
  | regex h =>
      obtain ⟨format, -, rfl⟩ := map_eq_ok.1 h
      exact .text
  | email | uuid => exact .text

/-! ### Answers at different times -/

/-- The value keeps the range and the format at a time. -/
def Keeps [Comparable μ] (scalar : Scalar Clocked μ) (now : DateTime) (w : Value) : Prop :=
  (scalar.range.boundsAt now).admits (scalar.kind.measure? w) = true ∧
    checkFormat scalar.format w = .ok ()

variable {fixed : Scalar Clocked μ}

theorem Fixed.boundsAt_eq (h : fixed.Fixed) (now later : DateTime) :
    fixed.range.boundsAt now = fixed.range.boundsAt later := by
  refine congrArg₂ Bounds.mk ?_ ?_
  · exact Option.map_congr fun bound hbound => Provider.run_of_isLiteral (h.min bound hbound)
  · exact Option.map_congr fun bound hbound => Provider.run_of_isLiteral (h.max bound hbound)

theorem Fixed.standIn_eq (h : fixed.Fixed) (now later : DateTime) :
    fixed.property.standIn now v = fixed.property.standIn later v := by
  cases v with
  | null =>
      refine congrArg (Option.getD · Value.null) ?_
      exact Option.map_congr fun value hvalue => Provider.run_of_isLiteral (h.default value hvalue)
  | _ => rfl

/-- A fixed scalar answers null, or the answer of its kind to what stands in for the value. -/
theorem Fixed.validate_asOf [Comparable μ] (h : fixed.Fixed) :
    (fixed.validate v).asOf now =
      if (fixed.property.standIn now v).isNull then
        if fixed.property.nullable then .ok .null else .error Fault.nullValue
      else fixed.kind.answer (fixed.range.boundsAt now) fixed.format fixed.stripHyphens
        (fixed.property.standIn now v) := by
  have hkind : ∀ u, fixed.property.checkKind u = Kind.expect fixed.kind.accepts u := by
    intro u
    rw [← h.accepts]
    rfl
  rw [validate, Property.run_asOf]
  simp only [Property.finish_map h.callback, hkind, check_asOf]
  rfl

/-- A result is null in place of null, or a result of the kind. -/
theorem Fixed.validate_eq_ok [Comparable μ] (h : fixed.Fixed) :
    (fixed.validate v).asOf now = .ok w ↔
      (fixed.property.standIn now v = .null ∧ fixed.property.nullable = true ∧ w = .null) ∨
        (fixed.property.standIn now v ≠ .null ∧
          fixed.kind.answer (fixed.range.boundsAt now) fixed.format fixed.stripHyphens
            (fixed.property.standIn now v) = .ok w) := by
  rw [h.validate_asOf]
  by_cases hs : fixed.property.standIn now v = .null
  · cases hn : fixed.property.nullable <;> simp [hs, Value.isNull, eq_comm]
  · simp [hs, Value.isNull_iff]

/-- What a fixed scalar of texts makes of a text. -/
theorem Fixed.validate_string {scalar : Scalar Clocked Nat} (hfixed : scalar.Fixed)
    (hkind : scalar.kind = .text) {s : String} :
    (scalar.validate (.string s)).asOf now = .ok w ↔
      (scalar.range.boundsAt now).admits (some s.length) = true ∧
        (∀ format, scalar.format = some format → format.admits s = true) ∧
          w = .string (if scalar.stripHyphens then withoutHyphens s else s) := by
  have hne : Value.string s ≠ .null := by rintro ⟨⟩
  rw [hfixed.validate_eq_ok, Property.standIn_of_ne_null hne, hkind, ScalarKind.text_eq_ok]
  simp

/-! ### The second validation -/

theorem kind_strip (strips : Bool) (u : Value) : (strip strips u).kind = u.kind := by
  cases u <;> rfl

theorem strip_strip (strips : Bool) (u : Value) : strip strips (strip strips u) = strip strips u := by
  cases u with
  | string s =>
      cases strips with
      | false => rfl
      | true => exact congrArg Value.string (withoutHyphens_of_not_mem (not_mem_withoutHyphens s))
  | _ => rfl

/-- Hyphens are only lost where they are stripped, and by texts. -/
theorem strip_eq_self {strips : Bool} {u : Value}
    (h : strips = false ∨ ∀ t, strip strips u ≠ .string t) : strip strips u = u := by
  cases u with
  | string s =>
      rcases h with rfl | h
      · rfl
      · exact (h _ rfl).elim
  | _ => rfl

end Scalar

/-- A result of a kind of scalars is not null.  It is its own result if it is admitted and has the
format, and it is and does where no hyphens were lost. -/
theorem ScalarKind.Standard.answer_again [Comparable μ] {kind : ScalarKind μ} (hkind : kind.Standard)
    {bounds : Bounds μ} {format : Option Format} {strips : Bool}
    (h : kind.answer bounds format strips v = .ok w) : w ≠ .null ∧
      (kind.answer bounds format strips w = .ok w ↔
        bounds.admits (kind.measure? w) = true ∧ Scalar.checkFormat format w = .ok ()) ∧
      ((strips = false ∨ ∀ t, w ≠ .string t) →
        bounds.admits (kind.measure? w) = true ∧ Scalar.checkFormat format w = .ok ()) := by
  obtain ⟨u, -, haccepts, hadmits, hformat, rfl⟩ := ScalarKind.answer_eq_ok.1 h
  have hmem : (Scalar.strip strips u).kind ∈ kind.accepts := by
    rw [Scalar.kind_strip]
    exact haccepts.resolve_left hkind.accepts_ne_nil
  have hcoerce := hkind.coerce_self hmem
  refine ⟨hkind.ne_null hmem, ⟨fun hagain => ?_, fun hkeeps => ?_⟩, fun hself => ?_⟩
  · obtain ⟨u', hu', -, hadmits', hformat', -⟩ := ScalarKind.answer_eq_ok.1 hagain
    obtain rfl := Except.ok.inj (hcoerce.symm.trans hu')
    exact ⟨hadmits', hformat'⟩
  · refine ScalarKind.answer_eq_ok.2 ⟨_, hcoerce, .inr hmem, hkeeps.1, hkeeps.2, ?_⟩
    exact (Scalar.strip_strip strips u).symm
  · rw [Scalar.strip_eq_self hself]
    exact ⟨hadmits, hformat⟩

namespace Scalar

variable [Comparable μ] {fixed : Scalar Clocked μ}

/-- A fixed scalar answers its result by itself if that keeps the range and the format. -/
theorem Fixed.again (hfixed : fixed.Fixed) (hkind : fixed.kind.Standard)
    (h : (fixed.validate v).asOf now = .ok w) :
    ((fixed.validate w).asOf later = .ok w ↔ w = .null ∨ fixed.Keeps later w) ∧
      ((fixed.stripHyphens = false ∨ ∀ t, w ≠ .string t) → (fixed.validate w).asOf later = .ok w) := by
  rw [hfixed.validate_eq_ok] at h
  rcases h with ⟨hstand, hnullable, rfl⟩ | ⟨-, hanswer⟩
  · -- null was let pass, and is again
    have hv : v = .null := by
      by_contra hv
      exact hv (Property.standIn_of_ne_null hv ▸ hstand)
    rw [hv, hfixed.standIn_eq now later] at hstand
    have hagain : (fixed.validate .null).asOf later = .ok .null :=
      hfixed.validate_eq_ok.2 (.inl ⟨hstand, hnullable, rfl⟩)
    exact ⟨iff_of_true hagain (.inl rfl), fun _ => hagain⟩
  · rw [hfixed.boundsAt_eq now later] at hanswer
    obtain ⟨hne, hagain, hself⟩ := hkind.answer_again hanswer
    have hvalidate : (fixed.validate w).asOf later = .ok w ↔ fixed.Keeps later w := by
      refine Iff.trans ?_ hagain
      rw [hfixed.validate_eq_ok, Property.standIn_of_ne_null hne]
      simp [hne]
    exact ⟨hvalidate.trans (or_iff_right hne).symm, fun h => hvalidate.2 (hself h)⟩

/-- **When a result is its own result**: where it keeps the range and the format, which it does where
no hyphens were stripped from it. -/
theorem validate_again {base : Scalar Clocked μ} (hbase : base.Base)
    {settings : List (Setting Clocked μ)} (hsettings : ∀ setting ∈ settings, setting.IsFixed)
    (h : ((base.adjust settings).validate v).asOf now = .ok w) :
    let scalar := base.adjust settings
    ((scalar.validate w).asOf later = .ok w ↔ w = .null ∨ scalar.Keeps later w) ∧
      ((scalar.stripHyphens = false ∨ ∀ t, w ≠ .string t) →
        (scalar.validate w).asOf later = .ok w) := by
  refine (hbase.fixed.adjust hsettings).again ?_ h
  rw [kind_adjust]
  exact hbase.standard

/-- Settings of identifiers that lose their hyphens, where `length` is the least length. -/
def badge (length : Nat) : List (Setting Clocked Nat) :=
  [.stripHyphens true, .min (.literal length)]

/-- An identifier with its hyphens. -/
def hyphened : String := "9689c6bd-8cfa-4888-a92c-7d23599b94aa"

/-- The same identifier without them. -/
def digits : String := "9689c6bd8cfa4888a92c7d23599b94aa"

theorem fixed_badge (length : Nat) : ∀ setting ∈ badge length, setting.IsFixed := by
  simp [badge, Setting.IsFixed, Provider.isLiteral]

theorem validate_badge {length : Nat} (h : length ≤ 36) :
    ((uuid.adjust (badge length)).validate (.string hyphened)).asOf now = .ok (.string digits) := by
  refine ((Base.uuid.fixed.adjust (fixed_badge length)).validate_string rfl).2 ⟨?_, ?_, rfl⟩
  · refine Bounds.admits_some.2 ⟨?_, ?_⟩
    · rintro a ⟨⟩
      exact Range.atLeast_nat.2 h
    · rintro b ⟨⟩
  · rintro format ⟨⟩
    decide +kernel

theorem validate_again_badge : let scalar := uuid.adjust (badge 32)
    (scalar.validate (.string hyphened)).asOf .epoch = .ok (.string digits) ∧
      (scalar.validate (.string digits)).asOf .epoch = .ok (.string digits) := by
  intro scalar
  have h : (scalar.validate (.string hyphened)).asOf .epoch = .ok (.string digits) :=
    validate_badge (by decide)
  have hadmits : Format.uuid.admits digits = true := by decide +kernel
  have hformat : checkFormat scalar.format (.string digits) = .ok () := by
    simp [scalar, badge, uuid, adjust, set, checkFormat, hadmits]
  exact ⟨h, (validate_again .uuid (fixed_badge 32) h).1.2 (.inr ⟨rfl, hformat⟩)⟩

/-- **A result may be refused**: without its hyphens an identifier may be too short. -/
theorem not_validate_again : let scalar := uuid.adjust (badge 33)
    (∀ setting ∈ badge 33, setting.IsFixed) ∧
      (scalar.validate (.string hyphened)).asOf .epoch = .ok (.string digits) ∧
      (scalar.validate (.string digits)).asOf .epoch =
        .error (Fault.outOfRange (Value.string digits).text) :=
  ⟨fixed_badge 33, validate_badge (by decide), rfl⟩

end Scalar

namespace Uuid

/-! ### Identifiers -/

/-- The characters of groups that are no hyphens are the digits. -/
theorem Grouped.filter_eq {sizes : List Nat} : ∀ {first : Nat} {text : List Char},
    Grouped first sizes text →
      text.filter (· ≠ '-') = text.filter (IsDigit ·) ∧
        (text.filter (IsDigit ·)).length = first + sizes.sum := by
  induction sizes with
  | nil =>
      intro first text h
      have hall : text.filter (IsDigit ·) = text :=
        List.filter_eq_self.2 fun c hc => decide_eq_true (h.2 c hc)
      rw [hall, filter_of_digits h.2]
      exact ⟨rfl, h.1⟩
  | cons next sizes ih =>
      rintro first _ ⟨front, sep, rest, rfl, hlength, hall, hsep, hrest⟩
      obtain ⟨heq, hsum⟩ := ih hrest
      have hfront : front.filter (IsDigit ·) = front :=
        List.filter_eq_self.2 fun c hc => decide_eq_true (hall c hc)
      have hnone : sep.filter (· ≠ '-') = [] ∧ sep.filter (IsDigit ·) = [] := by
        rcases hsep with rfl | rfl
        · exact ⟨rfl, rfl⟩
        · exact ⟨rfl, by decide⟩
      simp only [List.filter_append, hnone, hfront, filter_of_digits hall, heq, true_and]
      simp [hlength, hsum]

/-- Without its hyphens an identifier is the sequence of its digits, of which there are 32. -/
theorem withoutHyphens_eq {s : String} (h : Format.uuid.admits s = true) :
    Scalar.withoutHyphens s = String.ofList (s.toList.filter (IsDigit ·)) ∧
      (Scalar.withoutHyphens s).length = 32 := by
  obtain ⟨heq, hlength⟩ := (admits_iff.1 h).filter_eq
  have hdigits : Scalar.withoutHyphens s = String.ofList (s.toList.filter (IsDigit ·)) :=
    congrArg String.ofList heq
  refine ⟨hdigits, ?_⟩
  rw [hdigits, String.length_ofList, hlength]
  rfl

/-- An identifier that loses its hyphens is its own result exactly if it may have 32 characters; that
many are never too many. -/
theorem again_iff {scalar : Scalar Clocked Nat} (hfixed : scalar.Fixed) (hkind : scalar.kind = .text)
    (hformat : scalar.format = some .uuid) (hstrips : scalar.stripHyphens = true) {s : String}
    (h : (scalar.validate (.string s)).asOf now = .ok w) :
    (scalar.validate w).asOf later = .ok w ↔
      ∀ a, (scalar.range.boundsAt later).min = some a → a ≤ 32 := by
  obtain ⟨hadmits, hformats, rfl⟩ := (hfixed.validate_string hkind).1 h
  have huuid := hformats _ hformat
  have hlength := (withoutHyphens_eq huuid).2
  have hshorter : 32 ≤ s.length := by
    rw [← hlength, Scalar.withoutHyphens, String.length_ofList, ← String.length_toList]
    exact List.length_filter_le _ _
  rw [hfixed.boundsAt_eq now later, Bounds.admits_some] at hadmits
  rw [hstrips, if_pos rfl, hfixed.validate_string hkind, hlength, hstrips, if_pos rfl, hformat,
    Scalar.withoutHyphens_of_not_mem (Scalar.not_mem_withoutHyphens s), Bounds.admits_some]
  constructor
  · rintro ⟨⟨hmin, -⟩, -⟩ a ha
    exact Range.atLeast_nat.1 (hmin a ha)
  · intro hmin
    refine ⟨⟨fun a ha => Range.atLeast_nat.2 (hmin a ha), fun b hb => ?_⟩, ?_, rfl⟩
    · exact Range.atMost_nat.2 (hshorter.trans (Range.atMost_nat.1 (hadmits.2 b hb)))
    · rintro _ ⟨⟩
      exact admits_withoutHyphens huuid

/-- What an unbounded scalar of identifiers makes of a text. -/
theorem validate_eq_ok {scalar : Scalar Clocked Nat} (hfixed : scalar.Fixed)
    (hkind : scalar.kind = .text) (hformat : scalar.format = some .uuid)
    (hrange : scalar.range = .unbounded) {s : String} :
    (scalar.validate (.string s)).asOf now = .ok w ↔ Grouped 8 [4, 4, 4, 12] s.toList ∧
      w = .string (if scalar.stripHyphens then Scalar.withoutHyphens s else s) := by
  rw [hfixed.validate_string hkind, hrange, hformat, ← admits_iff]
  refine (and_iff_right rfl).trans (and_congr_left' ?_)
  simp

/-- **What the scalar of identifiers accepts and yields.**  It accepts groups of 8, 4, 4, 4 and 12
digits and leaves them as they are.  If it strips hyphens, whether that was set before the format or
behind it, it accepts the same texts, yields their 32 digits, and these again for the digits. -/
theorem validate_uuid (s : String) (now later : DateTime) :
    let stripped : Scalar Clocked Nat := Scalar.uuid.set (.stripHyphens true)
    let digits := String.ofList (s.toList.filter (IsDigit ·))
    (∀ w, (Scalar.uuid.validate (.string s)).asOf now = .ok w ↔
      Grouped 8 [4, 4, 4, 12] s.toList ∧ w = .string s) ∧
    (∀ w, (stripped.validate (.string s)).asOf now = .ok w ↔
      Grouped 8 [4, 4, 4, 12] s.toList ∧ w = .string digits) ∧
    (Grouped 8 [4, 4, 4, 12] s.toList →
      digits.length = 32 ∧ (stripped.validate (.string digits)).asOf later = .ok (.string digits)) ∧
    stripped = ((Scalar.of .text).set (.stripHyphens true)).set (.format .uuid) := by
  intro stripped digits
  have huuid : (Scalar.uuid : Scalar Clocked Nat).Fixed := Scalar.Base.uuid.fixed
  have hfixed : stripped.Fixed := huuid.set trivial
  have hstripped : ∀ w, (stripped.validate (.string s)).asOf now = .ok w ↔
      Grouped 8 [4, 4, 4, 12] s.toList ∧ w = .string digits := by
    intro w
    refine (validate_eq_ok hfixed rfl rfl rfl).trans (and_congr_right fun h => ?_)
    have hdigits : Scalar.withoutHyphens s = digits := (withoutHyphens_eq (admits_iff.2 h)).1
    rw [← hdigits]
    rfl
  refine ⟨fun w => validate_eq_ok huuid rfl rfl rfl, hstripped, fun h => ?_, rfl⟩
  obtain ⟨hdigits, hlength⟩ := withoutHyphens_eq (admits_iff.2 h)
  have hdigits : Scalar.withoutHyphens s = digits := hdigits
  refine ⟨hdigits ▸ hlength, ?_⟩
  rw [again_iff hfixed rfl rfl rfl ((hstripped _).2 ⟨h, rfl⟩)]
  rintro a ⟨⟩

end Uuid

end Conform
