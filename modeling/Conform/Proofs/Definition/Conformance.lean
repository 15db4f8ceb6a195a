/-
**Validators yield what conforms.**

What a value has to be in order to conform to a definition, said without mention of how a validator
goes about it: no conversion, no first candidate, no order of checks.  Conformance relates the
definition to an input and an output, since null is an output only in place of null.

Main definitions:

* `LeafType.Admits` — the values of a leaf's type;
* `Definition.Conforms` — an output conforms to a definition, given the input.

Main results:

* `Definition.conforms_of_answer` — what a definition answers conforms to it;
* `Definition.conforms_of_build` — **whatever a validator yields conforms to its definition**.
-/

import Conform.Proofs.Definition.Leaf
import Conform.Proofs.Definition.Simulation
import Conform.Proofs.Pattern.Uuid

set_option relaxedAutoImplicit false
set_option autoImplicit false

namespace Conform

/-! ### Leaves -/

namespace LeafType

/-- The value is of the type, within its bounds at a time, and has its format. -/
def Admits (now : DateTime) : LeafType → Value → Prop
  | any kinds, w => kinds = [] ∨ w.kind.name ∈ kinds
  | int min max, w =>
    ∃ n, w = .int n ∧ (∀ a, min = some a → a ≤ n) ∧ ∀ b, max = some b → n ≤ b
  | float min max, w | number min max, w =>
    ∃ x, ScalarKind.numeric? w = some x ∧
      (Bounds.mk (min.map .float) (max.map .float)).admits (some x) = true
  | bool, w => ∃ b, w = .bool b
  | string length, w => ∃ s, w = .string s ∧ length.Admits s.length
  | regex pattern length, w => ∃ s format, w = .string s ∧ length.Admits s.length ∧
      Format.compile pattern = .ok format ∧ format.admits s = true
  | email length, w =>
    ∃ s, w = .string s ∧ length.Admits s.length ∧ Format.email.admits s = true
  | uuid stripHyphens, w =>
    ∃ s, w = .string s ∧ Format.uuid.admits s = true ∧ (stripHyphens = true → '-' ∉ s.toList)
  | date min max, w => ∃ d, w = .date d ∧ TimeBound.Admits (fun a b => a.day ≤ b.day)
      Date.parse DateTime.shiftDate? Date.first Date.last now min max d
  | datetime min max, w => ∃ t, w = .datetime t ∧ TimeBound.Admits DateTime.NotAfter
      DateTime.parse DateTime.addDays? DateTime.first DateTime.last now min max t

/-- What a leaf answers is of its type. -/
theorem admits_of_answer {type : LeafType} {now : DateTime} {v w : Value}
    (h : type.answer now v = .ok w) : type.Admits now w := by
  cases type with
  | any kinds =>
      obtain ⟨known, hnames, hkind, rfl⟩ := any_eq_ok.1 h
      rcases hkind with rfl | hkind
      · exact .inl hnames.symm
      · right
        rw [← hnames]
        exact List.mem_map_of_mem hkind
  | int min max =>
      obtain ⟨n, -, rfl, hadmits⟩ := ScalarKind.int_eq_ok.1 h
      obtain ⟨hmin, hmax⟩ := Bounds.admits_some.1 hadmits
      refine ⟨n, rfl, ?_, ?_⟩
      · rintro a rfl
        exact Range.atLeast_int.1 (hmin (.int a) rfl)
      · rintro b rfl
        exact Range.atMost_int.1 (hmax (.int b) rfl)
  | float min max | number min max =>
      obtain ⟨rfl, x, hx, hadmits⟩ := ScalarKind.float_eq_ok.1 h
      exact ⟨x, hx, hadmits⟩
  | bool =>
      obtain ⟨b, -, rfl⟩ := ScalarKind.bool_eq_ok.1 h
      exact ⟨b, rfl⟩
  | string length =>
      obtain ⟨s, -, hadmits, -, rfl⟩ := ScalarKind.text_eq_ok.1 h
      exact ⟨s, rfl, LengthBounds.admits_iff.1 hadmits⟩
  | regex pattern length =>
      obtain ⟨format, hformat, h⟩ := bind_eq_ok.1 h
      obtain ⟨s, -, hadmits, hmatch, rfl⟩ := ScalarKind.text_eq_ok.1 h
      exact ⟨s, format, rfl, LengthBounds.admits_iff.1 hadmits, hformat, hmatch format rfl⟩
  | email length =>
      obtain ⟨s, -, hadmits, hmatch, rfl⟩ := ScalarKind.text_eq_ok.1 h
      exact ⟨s, rfl, LengthBounds.admits_iff.1 hadmits, hmatch _ rfl⟩
  | uuid stripHyphens =>
      obtain ⟨s, -, -, hmatch, rfl⟩ := ScalarKind.text_eq_ok.1 h
      refine ⟨_, rfl, ?_, ?_⟩
      · cases stripHyphens with
        | false => exact hmatch _ rfl
        | true => exact Uuid.admits_withoutHyphens (hmatch _ rfl)
      · rintro rfl
        exact Scalar.not_mem_withoutHyphens s
  | date min max =>
      obtain ⟨bounds, hbounds, h⟩ := bind_eq_ok.1 h
      obtain ⟨d, -, rfl, hadmits⟩ := ScalarKind.date_eq_ok.1 h
      exact ⟨d, rfl, TimeBound.admits_of_bounds Range.atLeast_date.1 Range.atMost_date.1
        hbounds hadmits⟩
  | datetime min max =>
      obtain ⟨bounds, hbounds, h⟩ := bind_eq_ok.1 h
      obtain ⟨t, -, rfl, hadmits⟩ := ScalarKind.datetime_eq_ok.1 h
      exact ⟨t, rfl, TimeBound.admits_of_bounds Range.atLeast_datetime.1 Range.atMost_datetime.1
        hbounds hadmits⟩

end LeafType

/-! ### Conformance -/

namespace Definition

/-- The output conforms to the definition, where it comes from the input.  Outputs other than null
come from what the input stands for. -/
inductive Conforms (now : DateTime) : Definition → Value → Value → Prop
  /-- null in place of null, where it is allowed and nothing stands in for it -/
  | null {d : Definition} : d.typeName ≠ .array → d.options.nullable = true →
      (∀ j, d.options.default = some j → j = .null) → Conforms now d .null .null
  /-- a value of the type -/
  | leaf {type : LeafType} {options : Options} {v w : Value} : w ≠ .null → type.Admits now w →
      Conforms now (leaf type options) v w
  /-- an object with the declared names, each member of which conforms to the definition of its
  field; what is missing in the input counts as null -/
  | object {fields : List (String × Definition)} {strict : Bool} {options : Options} {v : Value}
      {inputs outputs : Members Value} : options.standIn v = .object inputs →
      Members.names outputs = Members.names fields →
      (∀ name d w, (name, d) ∈ fields → (name, w) ∈ outputs →
        Conforms now d ((Members.find? inputs name).getD .null) w) →
      Conforms now (object fields strict options) v (.object outputs)
  /-- an array of a length within the bounds, each item of which conforms to the definition -/
  | array {items : Definition} {length : LengthBounds} {options : Options} {v : Value}
      {inputs outputs : List Value} : arrayOptions.standIn v = .array inputs →
      outputs.length = inputs.length → length.Admits outputs.length →
      (∀ (i : Nat) v w, inputs[i]? = some v → outputs[i]? = some w → Conforms now items v w) →
      Conforms now (array items length options) v (.array outputs)
  /-- a value that equals a literal -/
  | literal {entries : List (ChoiceEntry Definition)} {options : Options} {v w : Value} {j : Json} :
      w ≠ .null → .literal j ∈ entries → (Value.ofJson j).equal w = true →
      Conforms now (choice entries options) v w
  /-- a value that conforms to a definition among the entries -/
  | candidate {entries : List (ChoiceEntry Definition)} {options : Options} {v w : Value}
      {d : Definition} : w ≠ .null → .property d ∈ entries → Conforms now d (options.standIn v) w →
      Conforms now (choice entries options) v w

variable {start now : DateTime} {v w : Value}

/-- Null comes from nothing but null. -/
theorem Conforms.eq_null {d : Definition} (h : Conforms now d v .null) : v = .null := by
  cases h with
  | null => rfl
  | leaf hne _ => exact absurd rfl hne
  | literal hne _ _ => exact absurd rfl hne
  | candidate hne _ _ => exact absurd rfl hne

/-- A result of a first match is the value itself, equal to a literal, or the answer of an entry. -/
theorem answerEntries_eq_some {entries : List (ChoiceEntry Definition)}
    (h : answerEntries now entries v = some w) :
    (w = v ∧ ∃ j, .literal j ∈ entries ∧ (Value.ofJson j).equal v = true) ∨
      ∃ d, .property d ∈ entries ∧ answer now d v = .ok w := by
  induction entries with
  | nil => cases h
  | cons entry rest ih =>
      have hrest : answerEntries now rest v = some w →
          (w = v ∧ ∃ j, .literal j ∈ entry :: rest ∧ (Value.ofJson j).equal v = true) ∨
            ∃ d, .property d ∈ entry :: rest ∧ answer now d v = .ok w := fun h => (ih h).imp
        (fun ⟨hw, j, hj, hequal⟩ => ⟨hw, j, List.mem_cons_of_mem entry hj, hequal⟩)
        (fun ⟨d, hd, hanswer⟩ => ⟨d, List.mem_cons_of_mem entry hd, hanswer⟩)
      cases entry with
      | literal j =>
          rw [answerEntries] at h
          split at h
          · next hequal => exact .inl ⟨(Option.some.inj h).symm, j, List.mem_cons_self .., hequal⟩
          · exact hrest h
      | property d =>
          rw [answerEntries] at h
          split at h
          · next result hresult =>
              cases h
              exact .inr ⟨d, List.mem_cons_self .., hresult⟩
          · exact hrest h

/-- What a definition answers conforms to it. -/
theorem conforms_of_answer {d : Definition} (hd : d.WellFormed) :
    ∀ {v w : Value}, answer now d v = .ok w → Conforms now d v w := by
  induction d with
  | leaf type options =>
      intro v w h
      rw [answer, Options.answer_eq_ok] at h
      rcases h with ⟨hnull, hnullable, rfl⟩ | ⟨hne, h⟩
      · obtain ⟨rfl, hdefault⟩ := Options.standIn_eq_null.1 hnull
        exact .null (by cases type <;> simp [typeName, LeafType.typeName]) hnullable hdefault
      · exact .leaf (LeafType.ne_null_of_answer hne h) (LeafType.admits_of_answer h)
  | object fields strict options ih =>
      intro v w h
      have hfields := (everywhere_object.1 hd).2
      rcases object_eq_ok.1 h with ⟨hnull, hnullable, rfl⟩ | ⟨inputs, outputs, hinputs, -, hout, rfl⟩
      · obtain ⟨rfl, hdefault⟩ := Options.standIn_eq_null.1 hnull
        exact .null (by simp [typeName]) hnullable hdefault
      · refine .object hinputs (names_of_answerFields hout) fun name d w hmem hw => ?_
        have hanswer := Members.of_mem_of_forall₂ (answerFields_eq_ok.1 hout) hd.1 hmem hw
        exact ih (name, d) hmem (hfields (name, d) hmem) hanswer
  | array items length options ih =>
      intro v w h
      obtain ⟨inputs, outputs, hinputs, hadmits, hout, rfl⟩ := array_eq_ok.1 h
      have hlength := hout.length_eq
      refine .array hinputs hlength.symm ?_ fun i v w hv hw => ?_
      · rw [← hlength]
        exact LengthBounds.admits_iff.1 hadmits
      · obtain ⟨hi, rfl⟩ := List.getElem?_eq_some_iff.1 hv
        obtain ⟨hi', rfl⟩ := List.getElem?_eq_some_iff.1 hw
        exact ih hd.2 (hout.get hi hi')
  | choice entries options ih =>
      intro v w h
      have hentries := (everywhere_choice.1 hd).2
      rcases choice_eq_ok.1 h with ⟨hnull, hnullable, rfl⟩ | ⟨hne, h⟩
      · obtain ⟨rfl, hdefault⟩ := Options.standIn_eq_null.1 hnull
        exact .null (by simp [typeName]) hnullable hdefault
      · rcases answerEntries_eq_some h with ⟨rfl, j, hj, hequal⟩ | ⟨d, hmem, hanswer⟩
        · exact .literal hne hj hequal
        · -- a candidate answers null to nothing but null, and null has been answered before
          have hconforms := ih d hmem (hentries d hmem) hanswer
          refine .candidate ?_ hmem hconforms
          rintro rfl
          exact hne hconforms.eq_null

/-- **Whatever a validator yields conforms to its definition**, at the time when it is asked. -/
theorem conforms_of_build {d : Definition} (hd : d.WellFormed) {f : Validator Clocked}
    (hbuild : d.build.asOf start = .ok f) (hrun : (f v).asOf now = .ok w) : Conforms now d v w := by
  rw [asOf_of_validator hd hbuild] at hrun
  exact conforms_of_answer hd hrun

/-- A delivery: from when on, under which number, of what, and a remark. -/
def delivery : Definition :=
  object [("from", leaf (.datetime (some (.relative (-1))) none) ⟨false, some (.int 90000)⟩),
    ("id", leaf (.uuid true) .standard),
    ("lines", array (choice [.literal (.str "none"),
      .property (leaf (.int (some 1) none) .standard)] .standard) ⟨some 1, none⟩ .standard),
    ("note", leaf (.string ⟨none, some 3⟩) .standard)] false .standard

/-- A delivery put in: the default stands in for its time, and it has a name too much. -/
def deliveryInput : Value :=
  .object [("id", .string "01234567-89ab-cdef-0123-456789ABCDEF"),
    ("lines", .array [.int 7, .string "none"]), ("more", .bool true)]

/-- That delivery validated. -/
def deliveryOutput : Value :=
  .object [("from", .datetime (.ofParts 90000 0 0 rfl)),
    ("id", .string "0123456789abcdef0123456789ABCDEF"),
    ("lines", .array [.int 7, .string "none"]), ("note", .null)]

theorem conforms_of_build_delivery : ∃ f, delivery.build.asOf DateTime.epoch = .ok f ∧
    (f deliveryInput).asOf DateTime.epoch = .ok deliveryOutput ∧
      Conforms DateTime.epoch delivery deliveryInput deliveryOutput := by
  have hd : delivery.WellFormed := by decide
  obtain ⟨f, hf⟩ : ∃ f, delivery.build.asOf DateTime.epoch = .ok f := ⟨_, rfl⟩
  have hrun : (f deliveryInput).asOf DateTime.epoch = .ok deliveryOutput := by
    rw [asOf_of_validator hd hf]
    cbv
  exact ⟨f, hf, hrun, conforms_of_build hd hf hrun⟩

end Definition

end Conform
