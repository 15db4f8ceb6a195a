/-
**Validation is a projection.**

The first validation may change much about a value: texts and timestamps become dates and instants,
identifiers lose their hyphens, defaults stand in for null, undeclared members go and missing ones
come.  A second validation changes nothing any more.  Every step that makes a change leaves a value
that the step keeps: a date is its own date, a text without hyphens has none to lose, an object with
just the declared names has them all.

A choice keeps its values if it is among literals.  Among definitions it need not: the result of a
later one may be taken by an earlier one.

Main results:

* `LeafType.answer_of_answer` — a leaf keeps what it answers;
* `Definition.answer_of_answer` — so does a definition with choices among literals only;
* `Definition.validate_twice` — **validating a result again yields the same result**.
-/

import Conform.Proofs.Definition.Leaf
import Conform.Proofs.Definition.Simulation
import Conform.Proofs.Pattern.Uuid

set_option relaxedAutoImplicit false
set_option autoImplicit false

namespace Conform

variable {start now : DateTime}

/-! ### Leaves -/

/-- A leaf keeps what it answers. -/
theorem LeafType.answer_of_answer {type : LeafType} {v w : Value}
    (h : type.answer now v = .ok w) : type.answer now w = .ok w := by
  cases type with
  | any kinds =>
      obtain ⟨known, hnames, hkind, rfl⟩ := any_eq_ok.1 h
      exact h
  | int min max =>
      obtain ⟨n, rfl, rfl, -⟩ := ScalarKind.int_eq_ok.1 h
      exact h
  | float min max | number min max =>
      obtain ⟨rfl, -⟩ := ScalarKind.float_eq_ok.1 h
      exact h
  | bool =>
      obtain ⟨b, rfl, rfl⟩ := ScalarKind.bool_eq_ok.1 h
      exact h
  | string length | email length =>
      obtain ⟨s, rfl, -, -, rfl⟩ := ScalarKind.text_eq_ok.1 h
      exact h
  | regex pattern length =>
      obtain ⟨format, -, htext⟩ := bind_eq_ok.1 h
      obtain ⟨s, rfl, -, -, rfl⟩ := ScalarKind.text_eq_ok.1 htext
      exact h
  | uuid stripHyphens =>
      obtain ⟨s, rfl, -, hformat, rfl⟩ := ScalarKind.text_eq_ok.1 h
      cases stripHyphens with
      | false => exact h
      | true =>
          refine ScalarKind.text_eq_ok.2 ⟨_, rfl, rfl, ?_, ?_⟩
          · rintro f ⟨⟩
            exact Uuid.admits_withoutHyphens (hformat _ rfl)
          · have hnone := Scalar.not_mem_withoutHyphens s
            simp only [if_true, Scalar.withoutHyphens_of_not_mem hnone]
  | date min max =>
      obtain ⟨bounds, hbounds, hdate⟩ := bind_eq_ok.1 h
      obtain ⟨d, -, rfl, hadmits⟩ := ScalarKind.date_eq_ok.1 hdate
      exact bind_eq_ok.2 ⟨bounds, hbounds, ScalarKind.date_eq_ok.2 ⟨d, rfl, rfl, hadmits⟩⟩
  | datetime min max =>
      obtain ⟨bounds, hbounds, hdatetime⟩ := bind_eq_ok.1 h
      obtain ⟨t, -, rfl, hadmits⟩ := ScalarKind.datetime_eq_ok.1 hdatetime
      exact bind_eq_ok.2 ⟨bounds, hbounds, ScalarKind.datetime_eq_ok.2 ⟨t, rfl, rfl, hadmits⟩⟩

/-! ### Options -/

/-- Under any options, null is kept where it is a result, and every other result of a body that keeps
its results. -/
theorem Options.answer_of_answer {options : Options} {body : Value → Except Fault Value}
    {v w : Value} (hne : ∀ u, u ≠ .null → body u = .ok w → w ≠ .null)
    (hbody : ∀ u, body u = .ok w → body w = .ok w) (h : options.answer body v = .ok w) :
    options.answer body w = .ok w := by
  rcases answer_eq_ok.1 h with ⟨hnull, hnullable, rfl⟩ | ⟨hv, hresult⟩
  · obtain ⟨rfl, -⟩ := standIn_eq_null.1 hnull
    exact h
  · rw [answer_of_ne_null (hne _ hv hresult)]
    exact hbody _ hresult

/-! ### Definitions -/

namespace Definition

/-- An object keeps the members that its fields keep. -/
theorem answerFields_of_forall₂ {fields : List (String × Definition)} {members : Members Value}
    (hsorted : Members.Sorted members)
    (h : List.Forall₂ (fun field member => member.1 = field.1 ∧
      answer now field.2 member.2 = .ok member.2) fields members) :
    answerFields now fields members = .ok members := by
  have hmem := (List.forall₂_and_left members fields).2 ⟨fun _ h => h, h.flip⟩
  refine answerFields_eq_ok.2 (hmem.flip.imp fun field member hmember => ?_)
  obtain ⟨hin, hname, hanswer⟩ := hmember
  refine ⟨hname, ?_⟩
  rw [← hname, hsorted.find?_eq_some_iff.2 hin]
  exact hanswer

/-- The first literal that equals a value yields that value. -/
theorem answerEntries_of_literals {entries : List (ChoiceEntry Definition)} {v w : Value}
    (hliteral : ∀ entry ∈ entries, isLiteral entry = true)
    (h : answerEntries now entries v = some w) : w = v := by
  induction entries with
  | nil => cases h
  | cons entry rest ih =>
      obtain ⟨hentry, hrest⟩ := List.forall_mem_cons.1 hliteral
      cases entry with
      | literal j =>
          rw [answerEntries] at h
          split at h
          · exact (Option.some.inj h).symm
          · exact ih hrest h
      | property d => cases hentry

/-- A definition with choices among literals only keeps what it answers. -/
theorem answer_of_answer {d : Definition} (hd : d.WellFormed) (hliteral : d.LiteralChoices) :
    ∀ {v w : Value}, answer now d v = .ok w → answer now d w = .ok w := by
  induction d with
  | leaf type options =>
      intro v w h
      exact Options.answer_of_answer (fun u hu => LeafType.ne_null_of_answer hu)
        (fun u => LeafType.answer_of_answer) h
  | object fields strict options ih =>
      intro v w h
      rcases object_eq_ok.1 h with ⟨hnull, hnullable, rfl⟩ | ⟨inputs, outputs, -, -, hout, rfl⟩
      · obtain ⟨rfl, -⟩ := Options.standIn_eq_null.1 hnull
        exact h
      · have hnames := names_of_answerFields hout
        have hsorted : Members.Sorted outputs := (Members.sorted_congr hnames).2 hd.1
        refine object_eq_ok.2 (.inr ⟨outputs, outputs, rfl, ?_, ?_, rfl⟩)
        · intro _ name hname
          rwa [← hnames]
        · refine answerFields_of_forall₂ hsorted
            ((forall₂_of_answerFields hout).imp fun field member hmember => ?_)
          obtain ⟨hmem, -, hname, hanswer⟩ := hmember
          exact ⟨hname, ih field hmem ((everywhere_object.1 hd).2 field hmem)
            ((everywhere_object.1 hliteral).2 field hmem) hanswer⟩
  | array items length options ih =>
      intro v w h
      obtain ⟨inputs, outputs, -, hadmits, hout, rfl⟩ := array_eq_ok.1 h
      refine array_eq_ok.2 ⟨outputs, outputs, rfl, ?_, ?_, rfl⟩
      · rwa [← hout.length_eq]
      · -- each result is that of some item
        have hresult : ∀ w ∈ outputs, ∃ v, answer now items v = .ok w := by
          intro w hw
          obtain ⟨i, hi, rfl⟩ := List.mem_iff_getElem.1 hw
          exact ⟨_, hout.get (by rwa [hout.length_eq]) hi⟩
        rw [List.forall₂_same]
        intro w hw
        obtain ⟨v, hv⟩ := hresult w hw
        exact ih hd.2 hliteral.2 hv
  | choice entries options ih =>
      intro v w h
      rcases choice_eq_ok.1 h with ⟨hnull, hnullable, rfl⟩ | ⟨hv, hentry⟩
      · obtain ⟨rfl, -⟩ := Options.standIn_eq_null.1 hnull
        exact h
      · obtain rfl := answerEntries_of_literals hliteral.1 hentry
        have hstand : options.standIn (options.standIn v) = options.standIn v :=
          Options.standIn_of_ne_null hv
        exact choice_eq_ok.2 (.inr ⟨by rwa [hstand], by rwa [hstand]⟩)

/-- **Validating a result again yields the same result**, for choices among literals. -/
theorem validate_twice {d : Definition} (hd : d.WellFormed) (hliteral : d.LiteralChoices)
    {f : Validator Clocked} (hbuild : d.build.asOf start = .ok f) {v w : Value}
    (hrun : (f v).asOf now = .ok w) : (f w).asOf now = .ok w := by
  rw [asOf_of_validator hd hbuild] at hrun ⊢
  exact answer_of_answer hd hliteral hrun

/-- A parcel: when it comes, what it is worth, and how it is marked. -/
def parcel : Definition :=
  object [("day", leaf (.date none (some (.relative 1))) ⟨false, some (.int 3600)⟩),
    ("mark", choice [.literal (.str "fragile"), .literal (.int 1)] .standard),
    ("worth", array (leaf (.number none none) .standard) ⟨none, some 2⟩ .standard)] false .standard

/-- A parcel put in without a day and with a name too much. -/
def parcelInput : Value :=
  .object [("mark", .string "fragile"), ("sender", .string "unknown"), ("worth", .array [.int 7])]

/-- That parcel validated. -/
def parcelOutput : Value :=
  .object [("day", .date ⟨0⟩), ("mark", .string "fragile"), ("worth", .array [.int 7])]

theorem validate_twice_parcel : ∃ f, parcel.build.asOf DateTime.epoch = .ok f ∧
    (f parcelInput).asOf DateTime.epoch = .ok parcelOutput ∧
      (f parcelOutput).asOf DateTime.epoch = .ok parcelOutput := by
  have hd : parcel.WellFormed := by decide
  obtain ⟨f, hf⟩ : ∃ f, parcel.build.asOf DateTime.epoch = .ok f := ⟨_, rfl⟩
  have hrun : (f parcelInput).asOf DateTime.epoch = .ok parcelOutput := by
    rw [asOf_of_validator hd hf]
    rfl
  exact ⟨f, hf, hrun, validate_twice hd (by decide) hf hrun⟩

end Definition

end Conform
