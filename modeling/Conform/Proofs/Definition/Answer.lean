/-
**What a definition answers.**

The meaning of definitions, given directly: by recursion on the definition, what it answers to a
value at a time.  Nothing is built first and nothing is asked of an environment; where a definition
has no validator, it answers with the fault of that.

All definitions share the treatment of null.  A default stands in for null; what is null then is
answered by null or by a fault, and every other value by the body of the definition.

Main definitions:

* `Options.standIn`, `Options.answer` — the treatment of null;
* `TimeBound.resolve` — a bound at a time;
* `ScalarKind.answer`, `LeafType.answer` — the body of a leaf;
* `Definition.answer` — the answer of a definition.

Main results:

* `Options.answer_eq_ok`, `Options.answer_eq_error` — the results and the faults of an answer;
* `ScalarKind.answer_eq_ok` — the results of a scalar;
* `Definition.answerFields_eq_ok`, `Definition.answerItems_eq_ok` — the results of fields and items
  are those of each field and each item;
* `Definition.object_eq_ok`, `Definition.array_eq_ok`, `Definition.choice_eq_ok` — the results of
  definitions with parts.
-/

import Conform.Proofs.Clocked
import Conform.Proofs.Definition.Parts
import Conform.Proofs.Members

set_option relaxedAutoImplicit false
set_option autoImplicit false

namespace Conform

/-! ### Null -/

namespace Value

theorem isNull_iff {v : Value} : v.isNull = true ↔ v = .null := by
  cases v <;> simp [isNull]

/-- Only the document null is converted to null. -/
theorem ofJson_eq_null {j : Json} : ofJson j = .null ↔ j = .null := by
  cases j <;> simp [ofJson]

end Value

namespace Options

/-- The value that an input stands for: the default, if the input is null. -/
def standIn (options : Options) : Value → Value
  | .null => (options.default.map Value.ofJson).getD .null
  | value => value

/-- The answer to an input, where `body` answers to values other than null. -/
def answer (options : Options) (body : Value → Except Fault Value) (input : Value) :
    Except Fault Value :=
  if (options.standIn input).isNull then
    if options.nullable then .ok .null else .error Fault.nullValue
  else body (options.standIn input)

variable {options : Options} {body : Value → Except Fault Value} {v w : Value} {fault : Fault}

theorem standIn_of_ne_null (h : v ≠ .null) : options.standIn v = v := by
  cases v <;> first | rfl | exact absurd rfl h

/-- Null is left where the input is null and there is no default but null. -/
theorem standIn_eq_null :
    options.standIn v = .null ↔ v = .null ∧ ∀ j, options.default = some j → j = .null := by
  cases v with
  | null => cases hd : options.default <;> simp [standIn, hd, Value.ofJson_eq_null]
  | _ => simp [standIn]

theorem answer_of_ne_null (h : v ≠ .null) : options.answer body v = body v := by
  have hs : options.standIn v = v := standIn_of_ne_null h
  rw [answer, hs, if_neg (by rwa [Value.isNull_iff])]

/-- A default that is written out is answered like null. -/
theorem answer_default {j : Json} (hdefault : options.default = some j) (hj : j ≠ .null) :
    options.answer body (.ofJson j) = options.answer body .null := by
  have hne : Value.ofJson j ≠ .null := fun h => hj (Value.ofJson_eq_null.1 h)
  have hstand : options.standIn .null = .ofJson j := by simp [standIn, hdefault]
  rw [answer, answer, standIn_of_ne_null hne, hstand]

/-- A result is null in place of null, or a result of the body. -/
theorem answer_eq_ok : options.answer body v = .ok w ↔
    (options.standIn v = .null ∧ options.nullable = true ∧ w = .null) ∨
      (options.standIn v ≠ .null ∧ body (options.standIn v) = .ok w) := by
  by_cases hs : options.standIn v = .null
  · cases hn : options.nullable <;> simp [answer, hs, hn, Value.isNull, eq_comm]
  · simp [answer, hs, Value.isNull_iff]

/-- A fault is that of null, or a fault of the body. -/
theorem answer_eq_error : options.answer body v = .error fault ↔
    (options.standIn v = .null ∧ options.nullable = false ∧ fault = Fault.nullValue) ∨
      (options.standIn v ≠ .null ∧ body (options.standIn v) = .error fault) := by
  by_cases hs : options.standIn v = .null
  · cases hn : options.nullable <;> simp [answer, hs, hn, Value.isNull, eq_comm]
  · simp [answer, hs, Value.isNull_iff]

end Options

/-! ### Leaves -/

/-- The bound at a time, where `shift?` moves the time by days and `fallback` is the bound once it
cannot be moved that far. -/
def TimeBound.resolve {α : Type} (parse : String → Except Fault α)
    (shift? : DateTime → Int → Option α) (fallback : α) (now : DateTime) :
    TimeBound → Except Fault α
  | literal text => (parse text).mapError unreadable
  | relative days => .ok ((shift? now days.toInt).getD fallback)

/-- The bounds at a time. -/
def TimeBound.bounds {α : Type} (parse : String → Except Fault α)
    (shift? : DateTime → Int → Option α) (first last : α) (now : DateTime)
    (min max : Option TimeBound) : Except Fault (Bounds α) := do
  let min ← min.mapM (resolve parse shift? last now)
  let max ← max.mapM (resolve parse shift? first now)
  .ok ⟨min, max⟩

/-- A value of another kind than those listed is a fault, unless none is listed. -/
def Kind.expect (kinds : List Kind) (value : Value) : Except Fault Unit :=
  (Property.of kinds : Property Clocked).checkKind value

/-- The bounds of a length. -/
def LengthBounds.bounds (length : LengthBounds) : Bounds Nat :=
  ⟨length.min.map UInt64.toNat, length.max.map UInt64.toNat⟩

/-- The answer of a scalar to a value other than null. -/
def ScalarKind.answer {μ : Type} [Comparable μ] (kind : ScalarKind μ) (bounds : Bounds μ)
    (format : Option Format) (stripHyphens : Bool) (value : Value) : Except Fault Value := do
  let value ← kind.coerce value
  Kind.expect kind.accepts value
  if bounds.admits (kind.measure? value) then
    Scalar.checkFormat format value
    .ok (Scalar.strip stripHyphens value)
  else .error (Fault.outOfRange value.text)

theorem Kind.expect_eq_ok {kinds : List Kind} {v : Value} :
    Kind.expect kinds v = .ok () ↔ kinds = [] ∨ v.kind ∈ kinds := by
  simp [Kind.expect, Property.checkKind, Property.of, or_iff_not_imp_left]

/-- A result of a scalar is what the conversion yields, if it keeps all demands, and perhaps without
its hyphens. -/
theorem ScalarKind.answer_eq_ok {μ : Type} [Comparable μ] {kind : ScalarKind μ} {bounds : Bounds μ}
    {format : Option Format} {stripHyphens : Bool} {v w : Value} :
    kind.answer bounds format stripHyphens v = .ok w ↔
      ∃ u, kind.coerce v = .ok u ∧ (kind.accepts = [] ∨ u.kind ∈ kind.accepts) ∧
        bounds.admits (kind.measure? u) = true ∧ Scalar.checkFormat format u = .ok () ∧
        w = Scalar.strip stripHyphens u := by
  rw [answer, bind_eq_ok]
  refine exists_congr fun u => and_congr_right fun _ => ?_
  rw [bind_eq_ok]
  constructor
  · rintro ⟨⟨⟩, hk, h⟩
    split at h
    · next ha =>
        obtain ⟨⟨⟩, hf, hw⟩ := bind_eq_ok.1 h
        cases hw
        exact ⟨Kind.expect_eq_ok.1 hk, ha, hf, rfl⟩
    · cases h
  · rintro ⟨hk, ha, hf, rfl⟩
    exact ⟨(), Kind.expect_eq_ok.2 hk, by simp [ha, hf]⟩

/-- The answer of a leaf to a value other than null. -/
def LeafType.answer (now : DateTime) : LeafType → Value → Except Fault Value
  | any kinds, value => do
    Kind.expect (← kindsOf kinds) value
    .ok value
  | int min max, value => ScalarKind.int.answer ⟨min.map .int, max.map .int⟩ none false value
  | float min max, value =>
    ScalarKind.float.answer ⟨min.map .float, max.map .float⟩ none false value
  | number min max, value =>
    ScalarKind.number.answer ⟨min.map .float, max.map .float⟩ none false value
  | bool, value => ScalarKind.bool.answer ⟨none, none⟩ none false value
  | string length, value => ScalarKind.text.answer length.bounds none false value
  | regex pattern length, value => do
    ScalarKind.text.answer length.bounds (some (← Format.compile pattern)) false value
  | email length, value => ScalarKind.text.answer length.bounds (some Format.email) false value
  | uuid stripHyphens, value =>
    ScalarKind.text.answer ⟨none, none⟩ (some Format.uuid) stripHyphens value
  | date min max, value => do
    ScalarKind.date.answer
      (← TimeBound.bounds Date.parse DateTime.shiftDate? Date.first Date.last now min max)
      none false value
  | datetime min max, value => do
    ScalarKind.datetime.answer
      (← TimeBound.bounds DateTime.parse DateTime.addDays? DateTime.first DateTime.last now min max)
      none false value

/-! ### Definitions -/

namespace Definition

/-- In a strict object, the first undeclared name is a fault. -/
def expectDeclared (strict : Bool) (fields : List (String × Definition)) (members : Members Value) :
    Except Fault Unit :=
  match (Members.names members).find? fun name => !(Members.names fields).contains name with
  | some name => if strict then .error (Fault.unexpectedField name) else .ok ()
  | none => .ok ()

/-- The options under which an array answers: null stands for no items. -/
def arrayOptions : Options := ⟨false, some (.arr [])⟩

/-- The answers to items, the first of which has the index `index`. -/
def answerItems (answer : Value → Except Fault Value) (index : Nat) :
    List Value → Except Fault (List Value)
  | [] => .ok []
  | item :: rest => do
    let item ← (answer item).mapError (·.atIndex index)
    .ok (item :: (← answerItems answer (index + 1) rest))

mutual

/-- The answer of a definition to a value. -/
def answer (now : DateTime) : Definition → Value → Except Fault Value
  | leaf type options => options.answer (type.answer now)
  | object fields strict options => options.answer fun value => do
    let members ← Schema.membersOf value
    expectDeclared strict fields members
    Value.object <$> answerFields now fields members
  | array items length _ => arrayOptions.answer fun value => do
    let values ← ArrayProperty.itemsOf value
    if length.bounds.admits (some values.length) then
      Value.array <$> answerItems (answer now items) 0 values
    else .error (Fault.outOfRange ("array of length " ++ Fault.number values.length))
  | choice entries options => options.answer fun value =>
    match answerEntries now entries value with
    | some result => .ok result
    | none => .error (Fault.noMatchingChoice value.text)

/-- The answers of fields to the members of an object. -/
def answerFields (now : DateTime) :
    List (String × Definition) → Members Value → Except Fault (Members Value)
  | [], _ => .ok []
  | (name, d) :: rest, members => do
    let value ←
      (answer now d ((Members.find? members name).getD .null)).mapError (·.within name)
    .ok ((name, value) :: (← answerFields now rest members))

/-- The answer of the first entry that accepts a value. -/
def answerEntries (now : DateTime) :
    List (ChoiceEntry Definition) → Value → Option Value
  | [], _ => none
  | .literal j :: rest, value =>
    if (Value.ofJson j).equal value then some value else answerEntries now rest value
  | .property d :: rest, value =>
    match answer now d value with
    | .ok result => some result
    | .error _ => answerEntries now rest value

end

end Definition

theorem Schema.membersOf_eq_ok {v : Value} {members : Members Value} :
    membersOf v = .ok members ↔ v = .object members := by
  cases v <;> simp [membersOf]

theorem ArrayProperty.itemsOf_eq_ok {v : Value} {items : List Value} :
    itemsOf v = .ok items ↔ v = .array items := by
  cases v <;> simp [itemsOf]

namespace Definition

variable {now : DateTime}

/-- The results of items are those of each item. -/
theorem answerItems_eq_ok {answer : Value → Except Fault Value} {items out : List Value} :
    ∀ {index : Nat}, answerItems answer index items = .ok out ↔
      List.Forall₂ (fun item value => answer item = .ok value) items out := by
  induction items generalizing out with
  | nil => simp [answerItems, eq_comm]
  | cons item rest ih =>
      intro index
      cases h : answer item with
      | error fault => simp [answerItems, h, List.forall₂_cons_left_iff]
      | ok value =>
          simp only [answerItems, h, mapError_ok, ok_bind, bind_eq_ok, ih,
            List.forall₂_cons_left_iff]
          grind

/-- The results of fields are those of each field. -/
theorem answerFields_eq_ok {fields : List (String × Definition)} {members out : Members Value} :
    answerFields now fields members = .ok out ↔
      List.Forall₂ (fun field member => member.1 = field.1 ∧
        answer now field.2 ((Members.find? members field.1).getD .null) = .ok member.2)
        fields out := by
  induction fields generalizing out with
  | nil => simp [answerFields, eq_comm]
  | cons field rest ih =>
      cases h : answer now field.2 ((Members.find? members field.1).getD .null) with
      | error fault => simp [answerFields, h, List.forall₂_cons_left_iff]
      | ok value =>
          simp only [answerFields, h, mapError_ok, ok_bind, bind_eq_ok, ih,
            List.forall₂_cons_left_iff]
          grind

/-- Each member of a result is what a field answers, under its name. -/
theorem forall₂_of_answerFields {fields : List (String × Definition)}
    {members out : Members Value} (h : answerFields now fields members = .ok out) :
    List.Forall₂ (fun field member => field ∈ fields ∧ member ∈ out ∧ member.1 = field.1 ∧
      answer now field.2 ((Members.find? members field.1).getD .null) = .ok member.2)
      fields out := by
  have hout := (List.forall₂_and_left out fields).2 ⟨fun _ h => h, (answerFields_eq_ok.1 h).flip⟩
  exact (List.forall₂_and_left fields out).2 ⟨fun _ h => h, hout.flip⟩

/-- The names of a result are those declared. -/
theorem names_of_answerFields {fields : List (String × Definition)} {members out : Members Value}
    (h : answerFields now fields members = .ok out) : Members.names out = Members.names fields :=
  Members.names_of_forall₂ (answerFields_eq_ok.1 h)

/-- Only in a strict object every name has to be declared. -/
theorem expectDeclared_eq_ok {strict : Bool} {fields : List (String × Definition)}
    {members : Members Value} : expectDeclared strict fields members = .ok () ↔
      (strict = true → ∀ name ∈ Members.names members, name ∈ Members.names fields) := by
  rw [expectDeclared]
  cases h : (Members.names members).find? fun name => !(Members.names fields).contains name with
  | none =>
      rw [List.find?_eq_none] at h
      simp only [true_iff]
      intro _ name hname
      simpa using h name hname
  | some name =>
      have hnot : name ∉ Members.names fields := by simpa using List.find?_some h
      have hmem := List.mem_of_find?_eq_some h
      cases strict with
      | false => simp
      | true =>
          simp only [if_true, reduceCtorEq, forall_const, false_iff]
          intro hall
          exact hnot (hall name hmem)

/-- Where no object is strict, no name is refused. -/
theorem expectDeclared_false (fields : List (String × Definition)) (members : Members Value) :
    expectDeclared false fields members = .ok () := expectDeclared_eq_ok.2 (nomatch ·)

/-- Members of two objects are answered alike if each field answers alike to both. -/
theorem answerFields_eq_of_find? {fields : List (String × Definition)} {ms ns : Members Value}
    (h : ∀ field ∈ fields, answer now field.2 ((Members.find? ms field.1).getD .null) =
      answer now field.2 ((Members.find? ns field.1).getD .null)) :
    answerFields now fields ms = answerFields now fields ns := by
  induction fields with
  | nil => rfl
  | cons field rest ih =>
      obtain ⟨hfield, hrest⟩ := List.forall_mem_cons.1 h
      rw [answerFields, answerFields, hfield, ih hrest]

/-- A result of an object is null in place of null, or the object of the results of its fields. -/
theorem object_eq_ok {fields : List (String × Definition)} {strict : Bool} {options : Options}
    {v w : Value} : answer now (object fields strict options) v = .ok w ↔
      (options.standIn v = .null ∧ options.nullable = true ∧ w = .null) ∨
        ∃ inputs outputs, options.standIn v = .object inputs ∧
          (strict = true → ∀ name ∈ Members.names inputs, name ∈ Members.names fields) ∧
          answerFields now fields inputs = .ok outputs ∧ w = .object outputs := by
  rw [answer, Options.answer_eq_ok]
  refine or_congr_right ?_
  constructor
  · rintro ⟨-, h⟩
    obtain ⟨inputs, hinputs, h⟩ := bind_eq_ok.1 h
    obtain ⟨⟨⟩, hdeclared, h⟩ := bind_eq_ok.1 h
    obtain ⟨outputs, houtputs, rfl⟩ := map_eq_ok.1 h
    exact ⟨inputs, outputs, Schema.membersOf_eq_ok.1 hinputs, expectDeclared_eq_ok.1 hdeclared,
      houtputs, rfl⟩
  · rintro ⟨inputs, outputs, hinputs, hdeclared, houtputs, rfl⟩
    refine ⟨by simp [hinputs], bind_eq_ok.2 ⟨inputs, Schema.membersOf_eq_ok.2 hinputs, ?_⟩⟩
    exact bind_eq_ok.2 ⟨(), expectDeclared_eq_ok.2 hdeclared, map_eq_ok.2 ⟨outputs, houtputs, rfl⟩⟩

/-- A result of an array is the array of the results of its items. -/
theorem array_eq_ok {items : Definition} {length : LengthBounds} {options : Options}
    {v w : Value} : answer now (array items length options) v = .ok w ↔
      ∃ inputs outputs, arrayOptions.standIn v = .array inputs ∧
        length.bounds.admits (some inputs.length) = true ∧
        List.Forall₂ (fun item value => answer now items item = .ok value) inputs outputs ∧
        w = .array outputs := by
  rw [answer, Options.answer_eq_ok]
  constructor
  · rintro (⟨-, hnullable, -⟩ | ⟨-, h⟩)
    · cases hnullable
    · obtain ⟨inputs, hinputs, h⟩ := bind_eq_ok.1 h
      split at h
      · next hadmits =>
          obtain ⟨outputs, houtputs, rfl⟩ := map_eq_ok.1 h
          exact ⟨inputs, outputs, ArrayProperty.itemsOf_eq_ok.1 hinputs, hadmits,
            answerItems_eq_ok.1 houtputs, rfl⟩
      · cases h
  · rintro ⟨inputs, outputs, hinputs, hadmits, houtputs, rfl⟩
    refine .inr ⟨by simp [hinputs], bind_eq_ok.2 ⟨inputs, ArrayProperty.itemsOf_eq_ok.2 hinputs, ?_⟩⟩
    rw [if_pos hadmits]
    exact map_eq_ok.2 ⟨outputs, answerItems_eq_ok.2 houtputs, rfl⟩

/-- A result of a choice is null in place of null, or that of the first entry that has one. -/
theorem choice_eq_ok {entries : List (ChoiceEntry Definition)} {options : Options}
    {v w : Value} : answer now (choice entries options) v = .ok w ↔
      (options.standIn v = .null ∧ options.nullable = true ∧ w = .null) ∨
        (options.standIn v ≠ .null ∧ answerEntries now entries (options.standIn v) = some w) := by
  rw [answer, Options.answer_eq_ok]
  refine or_congr_right (and_congr_right fun _ => ?_)
  cases answerEntries now entries (options.standIn v) <;> simp

end Definition

end Conform
