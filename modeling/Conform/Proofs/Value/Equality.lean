/-
**Equality is an equivalence where numbers are exact.**

Values of different kinds can be equal, and so can instants under different offsets.  What equal values
have in common is a *datum*: a number by its place among all numbers, an instant by itself, arrays and
objects by the data of their parts.  A NaN has no place, and a great integer shares its place with
others; values without both are *exact*.  Exact values are equal just if they stand for the same datum,
whence equality is an equivalence of them.

A choice among literals asks for nothing but equality.  So it does not tell equal values apart; what it
accepts it leaves as it is.

Main definitions:

* `Datum`, `Value.datum` — what a value stands for;
* `Value.Exact` — no NaN, and no integer of a magnitude above `2 ^ 53`;
* `ChoiceProperty.ofLiterals`, `ChoiceProperty.offers` — a choice among literals, and what it offers.

Main results:

* `Value.equal_iff` — **exact values are equal just if they stand for the same datum**;
* `ChoiceProperty.offers_cases` — a choice among literals accepts what it offers and refuses all else;
* `Value.equal_equivalence` — **equality is an equivalence, and choices do not tell equal values apart**.
-/

import Conform.Proofs.Effectless
import Conform.Proofs.Numeric
import Conform.Proofs.Value.Plain

set_option relaxedAutoImplicit false
set_option autoImplicit false

namespace Conform

/-! ### Numbers -/

namespace Binary64

variable {x y : Binary64} {m n : ℤ}

/-- Floats are the same if they stand at one place in the order of numbers; a NaN stands at none. -/
theorem same_iff : x.same y = true ↔ ¬x.IsNaN ∧ ¬y.IsNaN ∧ x.order = y.order := by
  rw [same, compare?]
  split
  · next hnan => simp [hnan, ← not_or, ← and_assoc]
  · next hnan => simp [hnan, ← not_or, ← and_assoc]

theorem not_isNaN_of_isFinite (h : x.IsFinite) : ¬x.IsNaN := Nat.lt_asymm h

/-- An integer is exact as a float up to the first one behind which an integer is not. -/
theorem value_ofInt_of_le (hn : n.natAbs ≤ 2 ^ 53) : (ofInt n).value = n := by
  rcases Nat.lt_or_eq_of_le hn with hlt | heq
  · exact value_ofInt hlt
  · rcases Int.natAbs_eq n with h | h <;> rw [heq] at h <;> subst h
    · have hedge : ofInt ((2 ^ 53 : ℕ) : ℤ) = Numeric.edge := by decide +kernel
      rw [hedge, Numeric.value_edge]
      norm_num
    · have hedge : ofInt (-((2 ^ 53 : ℕ) : ℤ)) = ⟨0xC340000000000000⟩ := by decide +kernel
      have hsize : (⟨0xC340000000000000⟩ : Binary64).size = Numeric.edge.size :=
        size_eq_of_magnitude (by decide)
      have hvalue := Numeric.value_edge
      rw [value, if_neg (by decide)] at hvalue
      rw [hedge, value, if_pos (by decide), hsize, hvalue]
      norm_num

/-- Up to there no two integers are the same float. -/
theorem order_ofInt_inj (hm : m.natAbs ≤ 2 ^ 53) (hn : n.natAbs ≤ 2 ^ 53) :
    (ofInt m).order = (ofInt n).order ↔ m = n := by
  have hfinite : ∀ {k : ℤ}, k.natAbs ≤ 2 ^ 53 → (ofInt k).IsFinite := fun hk =>
    isFinite_ofInt (by omega)
  refine ⟨fun h => ?_, fun h => h ▸ rfl⟩
  have hvalue : (ofInt m).value = (ofInt n).value := le_antisymm
    ((order_le_order (hfinite hm) (hfinite hn)).1 h.le)
    ((order_le_order (hfinite hn) (hfinite hm)).1 h.ge)
  rw [value_ofInt_of_le hm, value_ofInt_of_le hn] at hvalue
  exact_mod_cast hvalue

end Binary64

/-! ### Data -/

/-- What a value stands for, whatever its representation. -/
inductive Datum where
  | null
  | bool (b : Bool)
  /-- a number, by its place among all numbers -/
  | number (order : Int)
  | string (s : String)
  | date (d : Date)
  /-- an instant, wherever on earth -/
  | instant (seconds : Int) (nanos : Nat)
  | array (items : List Datum)
  | object (members : List (String × Datum))

namespace Value

mutual

/-- The datum that a value stands for. -/
def datum : Value → Datum
  | null => .null
  | bool b => .bool b
  | int n => .number (Binary64.ofInt n.toInt).order
  | float x => .number x.order
  | string s => .string s
  | date d => .date d
  | datetime t => .instant t.seconds t.nanos
  | array items => .array (datumItems items)
  | object members => .object (datumMembers members)

/-- The data of items. -/
def datumItems : List Value → List Datum
  | [] => []
  | v :: rest => datum v :: datumItems rest

/-- The data of members. -/
def datumMembers : List (String × Value) → List (String × Datum)
  | [] => []
  | (k, v) :: rest => (k, datum v) :: datumMembers rest

end

/-- The value, if it is an integer, is exact as a float; it is no NaN. -/
def ExactHere : Value → Prop
  | int n => n.toInt.natAbs ≤ 2 ^ 53
  | float x => ¬x.IsNaN
  | null | bool _ | string _ | date _ | datetime _ | array _ | object _ => True

instance : DecidablePred ExactHere
  | int n => inferInstanceAs (Decidable (n.toInt.natAbs ≤ 2 ^ 53))
  | float x => inferInstanceAs (Decidable ¬x.IsNaN)
  | null | bool _ | string _ | date _ | datetime _ | array _ | object _ => isTrue trivial

/-- Every integer in the value is exact as a float, and no float in it is a NaN. -/
abbrev Exact (v : Value) : Prop := v.Everywhere ExactHere

variable {v w : Value}

theorem equalItems_iff {items : List Value} (h : ∀ v ∈ items, ∀ {w : Value}, v.Exact → w.Exact →
    (v.equal w = true ↔ v.datum = w.datum)) : ∀ {others : List Value},
    EverywhereItems ExactHere items → EverywhereItems ExactHere others →
      (equalItems items others = true ↔ datumItems items = datumItems others) := by
  induction items with
  | nil =>
      intro others _ _
      cases others <;> simp [equalItems, datumItems]
  | cons v rest ih =>
      obtain ⟨hv, hrest⟩ := List.forall_mem_cons.1 h
      intro others hitems hothers
      cases others with
      | nil => simp [equalItems, datumItems]
      | cons w others =>
          rw [equalItems, Bool.and_eq_true, hv hitems.1 hothers.1, ih hrest hitems.2 hothers.2]
          simp [datumItems]

theorem equalMembers_iff {members : List (String × Value)} (h : ∀ member ∈ members,
    ∀ {w : Value}, member.2.Exact → w.Exact → (member.2.equal w = true ↔ member.2.datum = w.datum)) :
    ∀ {others : List (String × Value)},
      EverywhereMembers ExactHere members → EverywhereMembers ExactHere others →
      (equalMembers members others = true ↔ datumMembers members = datumMembers others) := by
  induction members with
  | nil =>
      intro others _ _
      cases others <;> simp [equalMembers, datumMembers]
  | cons member rest ih =>
      obtain ⟨hmember, hrest⟩ := List.forall_mem_cons.1 h
      intro others hmembers hothers
      cases others with
      | nil => simp [equalMembers, datumMembers]
      | cons other others =>
          rw [equalMembers, Bool.and_eq_true, Bool.and_eq_true, hmember hmembers.1 hothers.1,
            ih hrest hmembers.2 hothers.2]
          simp [datumMembers]

/-- The float nearest to an integer is a number. -/
theorem not_isNaN_ofInt (n : Int64) : ¬(Binary64.ofInt n.toInt).IsNaN :=
  Binary64.not_isNaN_of_isFinite (Binary64.isFinite_ofInt (Numeric.natAbs_toInt_lt n))

/-- **Exact values are equal just if they stand for the same datum.** -/
theorem equal_iff : ∀ {w : Value}, v.Exact → w.Exact → (v.equal w = true ↔ v.datum = w.datum) := by
  induction v with
  | int n =>
      intro w hv hw
      cases w with
      | int m => simp [equal, datum, Binary64.order_ofInt_inj hv hw, Int64.toInt_inj]
      | float y => simp [equal, datum, Binary64.same_iff, not_isNaN_ofInt, show ¬y.IsNaN from hw]
      | _ => simp [equal, datum]
  | float x =>
      intro w hv hw
      cases w with
      | int m => simp [equal, datum, Binary64.same_iff, not_isNaN_ofInt, show ¬x.IsNaN from hv]
      | float y =>
          simp [equal, datum, Binary64.same_iff, show ¬x.IsNaN from hv, show ¬y.IsNaN from hw]
      | _ => simp [equal, datum]
  | datetime t =>
      intro w _ _
      cases w <;> simp [equal, datum, DateTime.simultaneous]
  | array items ih =>
      intro w hv hw
      cases w with
      | array others => rw [equal, equalItems_iff ih hv.2 hw.2, datum, datum, Datum.array.injEq]
      | _ => simp [equal, datum]
  | object members ih =>
      intro w hv hw
      cases w with
      | object others => rw [equal, equalMembers_iff ih hv.2 hw.2, datum, datum, Datum.object.injEq]
      | _ => simp [equal, datum]
  | _ =>
      intro w _ _
      cases w <;> simp [equal, datum]

end Value

/-! ### Choices among literals -/

namespace ChoiceProperty

variable {m : Type → Type} [Monad m]

/-- A choice among literals, without default and callback. -/
def ofLiterals (nullable : Bool) (literals : List Value) : ChoiceProperty m :=
  ⟨{ Property.any with nullable := nullable }, literals.map .literal⟩

variable [LawfulMonad m]

theorem firstMatch_literals (v : Value) (literals : List Value) :
    (firstMatch v (literals.map .literal) : m _) =
      pure (if literals.any (·.equal v) then some v else none) := by
  induction literals with
  | nil => rfl
  | cons l rest ih =>
      cases h : l.equal v <;> simp [firstMatch, Candidate.attempt, h, ih]

/-- A choice among literals takes what one of them equals, as it is. -/
theorem validate_ofLiterals (nullable : Bool) (literals : List Value) {v : Value} (hv : v ≠ .null) :
    (ofLiterals nullable literals : ChoiceProperty m).validate v =
      .of (if literals.any (·.equal v) then .ok v else .error (Fault.noMatchingChoice v.text)) := by
  have hkind : (ofLiterals nullable literals : ChoiceProperty m).property.checkKind v = .ok () := rfl
  have hfirst := firstMatch_literals (m := m) v literals
  rw [validate, Property.run_of_ne_null rfl _ hv hkind]
  refine ExceptT.ext ?_
  cases h : literals.any (·.equal v) with
  | false => simp [ofLiterals, hfirst, h]
  | true => simp [ofLiterals, hfirst, h]

/-- Null passes a choice that allows it, and no other. -/
theorem validate_ofLiterals_null (nullable : Bool) (literals : List Value) :
    (ofLiterals nullable literals : ChoiceProperty m).validate .null =
      .of (if nullable then .ok .null else .error Fault.nullValue) := by
  refine ExceptT.ext ?_
  cases nullable <;> simp [ofLiterals, validate, Property.run, Property.resolve, Property.any,
    Property.of, Value.isNull]

/-- The choice accepts the value, as it is. -/
def Accepts (choice : ChoiceProperty m) (v : Value) : Prop := choice.validate v = .of (.ok v)

/-- The choice refuses the value. -/
def Refuses (choice : ChoiceProperty m) (v : Value) : Prop :=
  ∃ fault, choice.validate v = .of (.error fault)

/-- Does a choice among literals have a place for the value?  Null has one where it is allowed, any other
value if it equals a literal. -/
def offers (nullable : Bool) (literals : List Value) (v : Value) : Bool :=
  if v.isNull then nullable else literals.any (·.equal v)

/-- A choice among literals accepts what it offers, as it is, and refuses all else. -/
theorem offers_cases (nullable : Bool) (literals : List Value) (v : Value) :
    if offers nullable literals v then (ofLiterals nullable literals : ChoiceProperty m).Accepts v
      else (ofLiterals nullable literals : ChoiceProperty m).Refuses v := by
  rw [offers]
  cases hnull : v.isNull with
  | true =>
      obtain rfl := Value.isNull_iff.1 hnull
      have hvalidate := validate_ofLiterals_null (m := m) nullable literals
      cases nullable with
      | true => exact hvalidate
      | false => exact ⟨_, hvalidate⟩
  | false =>
      have hne : v ≠ .null := by
        rintro rfl
        cases hnull
      have hvalidate := validate_ofLiterals (m := m) nullable literals hne
      generalize literals.any (·.equal v) = offered at hvalidate ⊢
      cases offered with
      | true => exact hvalidate
      | false => exact ⟨_, hvalidate⟩

end ChoiceProperty

/-! ### Equivalence -/

namespace Value

open ChoiceProperty

variable {x y : Value} {literals : List Value}

/-- Only null equals null. -/
theorem isNull_eq_of_equal (h : x.equal y = true) : x.isNull = y.isNull := by
  cases x <;> cases y <;> simp_all [equal, isNull]

/-- What is offered does not depend on the representation of a value. -/
theorem offers_congr (nullable : Bool) (hx : x.Exact) (hy : y.Exact)
    (hliterals : ∀ l ∈ literals, l.Exact) (h : x.equal y = true) :
    offers nullable literals x = offers nullable literals y := by
  have hdatum := (equal_iff hx hy).1 h
  have hequal : literals.any (·.equal x) = literals.any (·.equal y) := by
    rw [Bool.eq_iff_iff, List.any_eq_true, List.any_eq_true]
    refine exists_congr fun l => and_congr_right fun hl => ?_
    rw [equal_iff (hliterals l hl) hx, equal_iff (hliterals l hl) hy, hdatum]
  rw [offers, offers, isNull_eq_of_equal h, hequal]

/-- **Equality is an equivalence of exact values**, whatever their kinds and offsets, **and a choice among
literals does not tell equal values apart**: it offers both or none, accepts as they are those that it
offers, and refuses the others. -/
theorem equal_equivalence :
    Equivalence (fun v w : { v : Value // v.Exact } => v.1.equal w.1 = true) ∧
      ∀ x y : Value, x.Exact → y.Exact → x.equal y = true →
        ∀ literals : List Value, (∀ l ∈ literals, l.Exact) → ∀ nullable : Bool,
          offers nullable literals x = offers nullable literals y ∧
            ∀ (m : Type → Type) [Monad m] [LawfulMonad m],
              let choice : ChoiceProperty m := ofLiterals nullable literals
              if offers nullable literals x then choice.Accepts x ∧ choice.Accepts y
                else choice.Refuses x ∧ choice.Refuses y := by
  refine ⟨⟨fun v => ?_, @fun v w h => ?_, @fun u v w h h' => ?_⟩, ?_⟩
  · exact (equal_iff v.2 v.2).2 rfl
  · exact (equal_iff w.2 v.2).2 ((equal_iff v.2 w.2).1 h).symm
  · exact (equal_iff u.2 w.2).2 (((equal_iff u.2 v.2).1 h).trans ((equal_iff v.2 w.2).1 h'))
  · intro x y hx hy hequal literals hliterals nullable
    have hoffers := offers_congr nullable hx hy hliterals hequal
    refine ⟨hoffers, fun m _ _ => ?_⟩
    have hxcases := offers_cases (m := m) nullable literals x
    have hycases := offers_cases (m := m) nullable literals y
    rw [← hoffers] at hycases
    cases h : offers nullable literals x with
    | true =>
        rw [h] at hxcases hycases
        exact ⟨hxcases, hycases⟩
    | false =>
        rw [h] at hxcases hycases
        exact ⟨hxcases, hycases⟩

/-- A meeting: when it is, in which time zone it is announced, and how many may come. -/
def meeting (offset : Int) (h : (DateTime.ofParts? 0 0 offset).isSome = true) (places : Value) : Value :=
  .object [("at", .datetime (.ofParts 0 0 offset h)), ("places", .array [places])]

/-- The meeting with its places as an integer, announced one hour west of UTC. -/
def meetingHere : Value := meeting (-3600) rfl (.int 9007199254740992)

/-- The meeting with its places as a float, announced one hour east of UTC. -/
def meetingThere : Value := meeting 3600 rfl (.float Numeric.edge)

theorem equal_equivalence_meeting : meetingHere.Exact ∧ meetingThere.Exact ∧
    meetingHere.equal meetingThere = true ∧ meetingThere.equal meetingHere = true ∧
      (ofLiterals false [meetingThere] : ChoiceProperty Clocked).Accepts meetingHere ∧
      (ofLiterals false [.int 1] : ChoiceProperty Clocked).Refuses meetingThere := by
  have hhere : meetingHere.Exact := by decide
  have hthere : meetingThere.Exact := by decide
  have hequal : meetingHere.equal meetingThere = true := by decide +kernel
  have hone : (int 1).Exact := by decide
  obtain ⟨hequivalence, hchoice⟩ := equal_equivalence
  have hsymm := @Equivalence.symm _ _ hequivalence ⟨_, hhere⟩ ⟨_, hthere⟩ hequal
  have hoffered : offers false [meetingThere] meetingHere = true := by decide +kernel
  have hforeign : offers false [.int 1] meetingHere = false := rfl
  have haccepts := (hchoice _ _ hhere hthere hequal [meetingThere]
    (List.forall_mem_singleton.2 hthere) false).2 Clocked
  have hrefuses := (hchoice _ _ hhere hthere hequal [.int 1]
    (List.forall_mem_singleton.2 hone) false).2 Clocked
  rw [hoffered] at haccepts
  rw [hforeign] at hrefuses
  exact ⟨hhere, hthere, hequal, hsymm, haccepts.1, hrefuses.2⟩

end Value

end Conform
