/-
**Declared fields.**

A schema is made by declarations, one after the other, and a name may be declared again.  The fields
hold each name once, at the place of its first declaration and with the validator of its last.

That no name occurs twice is what the validation of an object relies on.  It visits the fields in
their order, and it makes no difference whether a field leaves its member in the input or takes it out:
no later field asks for it.  The result has the declared names and nothing else, and under each the
value that its validator yields.

A validator without effects yields the same whenever it is asked.  So if all validators of a schema are
such, then whether an input is accepted, and with what result, depends on the validator of each name
alone, and not on the order in which the names were declared, nor on how often.

Main definitions:

* `Schema.declareAll` — a schema after some declarations;
* `Schema.Passes` — fields that yield values, each beginning in the state that the one before left;
* `Schema.takeEach` — the validation in which each field takes its member out of the input;
* `Schema.Registers` — what declarations make of a schema.

Main results:

* `Schema.holds_declareAll` — what a schema holds after some declarations;
* `Schema.validateFields_eq_ok` — when an object is accepted, and with what result;
* `Schema.takeEach_eq` — fields may take their members out;
* `Schema.validateFields_eq_ok_of_get?` — without effects, the validators of the names decide;
* `Schema.registers` — **every sequence of declarations makes such a schema**.
-/

import Conform.Proofs.Effectless
import Conform.Proofs.Members

set_option relaxedAutoImplicit false
set_option autoImplicit false

namespace Conform

variable {m : Type → Type} {σ : Type}

namespace Schema

/-! ### Declarations -/

/-- The schema after some declarations, the first of them made first. -/
def declareAll (schema : Schema m) (declarations : List (String × Validator m)) : Schema m :=
  declarations.foldl (fun schema declaration => schema.field declaration.1 declaration.2) schema

theorem declareAll_append (schema : Schema m) (declarations others : List (String × Validator m)) :
    schema.declareAll (declarations ++ others) = (schema.declareAll declarations).declareAll others :=
  List.foldl_append

/-- A new name comes last; a name that is there stays where it is. -/
theorem names_declare (name : String) (f : Validator m) (fields : List (String × Validator m)) :
    (declare name f fields).map Prod.fst =
      if name ∈ fields.map Prod.fst then fields.map Prod.fst else fields.map Prod.fst ++ [name] := by
  induction fields with
  | nil => simp [declare]
  | cons field rest ih =>
      obtain ⟨k, g⟩ := field
      rw [declare]
      by_cases hk : k = name
      · simp [hk]
      · rw [if_neg hk, List.map_cons, ih]
        by_cases hmem : name ∈ rest.map Prod.fst <;> simp [hmem, Ne.symm hk]

theorem lookup_cons (k : String) (f : Validator m) (fields : List (String × Validator m))
    (key : String) : ((k, f) :: fields).lookup key = if key = k then some f else fields.lookup key := by
  by_cases hkey : key = k
  · simp [hkey]
  · rw [List.lookup, beq_false_of_ne hkey, if_neg hkey]

/-- The name has the new validator, and other names have theirs. -/
theorem lookup_declare (name : String) (f : Validator m) (fields : List (String × Validator m))
    (key : String) :
    (declare name f fields).lookup key = if key = name then some f else fields.lookup key := by
  induction fields with
  | nil => exact lookup_cons name f [] key
  | cons field rest ih =>
      obtain ⟨k, g⟩ := field
      rw [declare]
      by_cases hk : k = name
      · subst hk
        rw [if_pos rfl, lookup_cons, lookup_cons]
        split <;> rfl
      · rw [if_neg hk, lookup_cons, lookup_cons, ih]
        by_cases hkey : key = k
        · rw [if_pos hkey, if_pos hkey, if_neg (hkey ▸ hk)]
        · rw [if_neg hkey, if_neg hkey]

/-- The schema holds the declared names, each once, in the order of their first declarations, and each
with the validator of its last. -/
structure Holds (schema : Schema m) (declarations : List (String × Validator m)) : Prop where
  nodup : schema.names.Nodup
  mem_names : ∀ name, name ∈ schema.names ↔ name ∈ declarations.map Prod.fst
  ordered : schema.names.Pairwise fun a b =>
    (declarations.map Prod.fst).idxOf a < (declarations.map Prod.fst).idxOf b
  get?_eq : ∀ name, schema.get? name = declarations.reverse.lookup name

namespace Holds

variable {schema : Schema m} {declarations : List (String × Validator m)}

theorem empty (name : String) (strict : Bool) : Holds (empty name strict : Schema m) [] :=
  ⟨List.nodup_nil, fun _ => .rfl, .nil, fun _ => rfl⟩

/-- What one more declaration does. -/
theorem field (h : schema.Holds declarations) (name : String) (f : Validator m) :
    (schema.field name f).Holds (declarations ++ [(name, f)]) := by
  have hnames : (schema.field name f).names =
      if name ∈ schema.names then schema.names else schema.names ++ [name] :=
    names_declare name f schema.fields
  -- an old name is found where it was, a new one behind all others
  have hold : ∀ key ∈ schema.names, ((declarations ++ [(name, f)]).map Prod.fst).idxOf key =
      (declarations.map Prod.fst).idxOf key := by
    intro key hkey
    rw [List.map_append, List.idxOf_append_of_mem ((h.mem_names key).1 hkey)]
  have hordered : schema.names.Pairwise fun a b =>
      ((declarations ++ [(name, f)]).map Prod.fst).idxOf a <
        ((declarations ++ [(name, f)]).map Prod.fst).idxOf b := by
    refine List.Pairwise.imp_of_mem (fun ha hb hlt => ?_) h.ordered
    rwa [hold _ ha, hold _ hb]
  refine ⟨?_, fun key => ?_, ?_, fun key => ?_⟩
  · rw [hnames]
    split
    · exact h.nodup
    · next hnew => exact List.nodup_append.2 ⟨h.nodup, List.nodup_singleton _, by grind⟩
  · rw [hnames, List.map_append, List.mem_append, ← h.mem_names]
    split <;> grind
  · rw [hnames]
    split
    · exact hordered
    · next hnew =>
        refine List.pairwise_append.2 ⟨hordered, List.pairwise_singleton _ _, ?_⟩
        intro key hkey other hother
        obtain rfl := List.mem_singleton.1 hother
        have hnot : other ∉ declarations.map Prod.fst := mt (h.mem_names other).2 hnew
        rw [hold key hkey, List.map_append, List.idxOf_append_of_notMem hnot]
        exact Nat.lt_add_right _ (List.idxOf_lt_length_iff.2 ((h.mem_names key).1 hkey))
  · have hget : (schema.field name f).get? key = if key = name then some f else schema.get? key :=
      lookup_declare name f schema.fields key
    rw [hget, h.get?_eq, List.reverse_append, List.reverse_singleton, List.singleton_append,
      lookup_cons]

end Holds

/-- **What a schema holds after some declarations.** -/
theorem holds_declareAll (name : String) (strict : Bool)
    (declarations : List (String × Validator m)) :
    ((empty name strict).declareAll declarations).Holds declarations := by
  -- one declaration after the other, the last of them split off
  induction declarations using List.reverseRecOn with
  | nil => exact .empty name strict
  | append_singleton declarations declaration ih =>
      rw [declareAll_append]
      exact ih.field declaration.1 declaration.2

/-! ### Members taken out -/

/-- The validated fields of an object, where each field takes its member out of what is left of the
input, and what is left behind the last. -/
def takeEach [Monad m] (left : Members Value) :
    List (String × Validator m) → Outcome m (Members Value × Members Value)
  | [] => pure ([], left)
  | (name, validator) :: rest => do
    let value ← (validator ((Members.find? left name).getD .null)).mapFault (·.within name)
    let (output, left) ← takeEach (Members.erase left name) rest
    return (Members.insert output name value, left)

/-- The members of an input that no field takes. -/
def leftover (input : Members Value) (fields : List (String × Validator m)) : Members Value :=
  input.filter fun member => member.1 ∉ fields.map Prod.fst

theorem leftover_erase (input : Members Value) (name : String) (f : Validator m)
    (fields : List (String × Validator m)) :
    leftover (Members.erase input name) fields = leftover input ((name, f) :: fields) := by
  rw [leftover, leftover, Members.erase, List.filter_filter]
  refine List.filter_congr fun member _ => ?_
  by_cases h : member.1 = name <;> simp [h]

/-- Fields with different names do not see what is taken out of the input for others. -/
theorem validateEach_erase [Monad m] (input : Members Value) {name : String}
    {fields : List (String × Validator m)} (h : name ∉ fields.map Prod.fst) :
    validateEach (Members.erase input name) fields = validateEach input fields := by
  induction fields with
  | nil => rfl
  | cons field rest ih =>
      obtain ⟨k, f⟩ := field
      obtain ⟨hne, hrest⟩ := not_or.1 (List.mem_cons.not.1 h)
      rw [validateEach, validateEach, ih hrest, Members.find?_erase, if_neg hne]

/-- **Fields may take their members out of the input.**  What is left behind the last is what was not
declared. -/
theorem takeEach_eq [Monad m] [LawfulMonad m] {fields : List (String × Validator m)}
    (h : (fields.map Prod.fst).Nodup) (input : Members Value) :
    takeEach input fields = (·, leftover input fields) <$> validateEach input fields := by
  induction fields generalizing input with
  | nil => simp [takeEach, validateEach, leftover]
  | cons field rest ih =>
      obtain ⟨name, f⟩ := field
      obtain ⟨hnot, hrest⟩ := List.nodup_cons.1 h
      rw [takeEach, validateEach, ih hrest, validateEach_erase input hnot, leftover_erase input name f]
      simp

/-! ### Accepted objects -/

/-- Fields are validated one after the other and yield values, each with the member of its name or else
null, and in the state that the field before left behind. -/
inductive Passes (input : Members Value) :
    List (String × Validator (StateM σ)) → σ → List (String × Value) → σ → Prop where
  | nil {s : σ} : Passes input [] s [] s
  | cons {name : String} {validator : Validator (StateM σ)}
      {fields : List (String × Validator (StateM σ))} {value : Value}
      {values : List (String × Value)} {s t u : σ}
      (head : (validator ((Members.find? input name).getD .null)).runFrom s = (.ok value, t))
      (rest : Passes input fields t values u) :
      Passes input ((name, validator) :: fields) s ((name, value) :: values) u

variable {input : Members Value} {fields : List (String × Validator (StateM σ))}
  {values : List (String × Value)} {s t : σ}

theorem Passes.names (h : Passes input fields s values t) : values.map Prod.fst = fields.map Prod.fst := by
  induction h with
  | nil => rfl
  | cons _ _ ih => exact congrArg (_ :: ·) ih

/-- Under each name stands what its validator yields for the member of the name, or for null. -/
theorem Passes.exists_value (h : Passes input fields s values t) {name : String}
    {validator : Validator (StateM σ)} (hmem : (name, validator) ∈ fields) :
    ∃ value, (name, value) ∈ values ∧ ∃ before behind,
      (validator ((Members.find? input name).getD .null)).runFrom before = (.ok value, behind) := by
  induction h with
  | nil => cases hmem
  | cons head _ ih =>
      rcases List.mem_cons.1 hmem with heq | hmem
      · cases heq
        exact ⟨_, List.mem_cons_self .., _, _, head⟩
      · obtain ⟨value, hvalue, hrun⟩ := ih hmem
        exact ⟨value, List.mem_cons_of_mem _ hvalue, hrun⟩

theorem validateEach_eq_ok {output : Members Value} :
    (validateEach input fields).runFrom s = (.ok output, t) ↔
      ∃ values, Passes input fields s values t ∧ output = Members.ofList values.reverse := by
  induction fields generalizing s t output with
  | nil =>
      rw [validateEach, Outcome.runFrom_pure]
      constructor
      · rintro ⟨⟩
        exact ⟨[], .nil, rfl⟩
      · rintro ⟨_, ⟨⟩, rfl⟩
        rfl
  | cons field rest ih =>
      obtain ⟨name, f⟩ := field
      -- what is inserted last is the value of the first field
      have hinsert : ∀ (value : Value) (values : List (String × Value)),
          Members.ofList ((name, value) :: values).reverse =
            Members.insert (Members.ofList values.reverse) name value := by
        intro value values
        simp [Members.ofList]
      simp only [validateEach, Outcome.runFrom_bind_eq_ok, Outcome.runFrom_mapFault_eq_ok,
        Outcome.runFrom_pure, ih]
      constructor
      · rintro ⟨value, u, hvalue, inner, v, ⟨values, hvalues, rfl⟩, heq⟩
        cases heq
        exact ⟨(name, value) :: values, .cons hvalue hvalues, (hinsert value values).symm⟩
      · rintro ⟨_, @⟨_⟩ | @⟨_, _, _, value, values, _, u, _, hvalue, hvalues⟩, rfl⟩
        exact ⟨value, u, hvalue, _, _, ⟨values, hvalues, rfl⟩, by rw [hinsert]⟩

/-- Every name of the input is declared, if nothing else is allowed. -/
theorem undeclared?_eq_none {schema : Schema m} :
    schema.undeclared? input = none ↔ ∀ key ∈ Members.names input, key ∈ schema.names := by
  simp [undeclared?, Members.names, List.find?_eq_none]

/-- An object is accepted if its names may stand there and every field yields a value; the values make
up the result. -/
theorem validateFields_eq_ok {schema : Schema (StateM σ)} {strict : Bool} {w : Value} :
    (schema.validateFields strict input).runFrom s = (.ok w, t) ↔
      (strict = true → ∀ key ∈ Members.names input, key ∈ schema.names) ∧
        ∃ values, Passes input schema.fields s values t ∧
          w = .object (Members.ofList values.reverse) := by
  have hnone : (strict = true → ∀ key ∈ Members.names input, key ∈ schema.names) ↔
      (if strict then schema.undeclared? input else none) = none := by
    rw [← undeclared?_eq_none]
    cases strict <;> simp
  rw [hnone, validateFields]
  cases if strict then schema.undeclared? input else none with
  | some name => simp
  | none =>
      simp only [Outcome.runFrom_bind_eq_ok, Outcome.runFrom_pure, validateEach_eq_ok, true_and]
      constructor
      · rintro ⟨_, _, ⟨values, hvalues, rfl⟩, heq⟩
        cases heq
        exact ⟨values, hvalues, rfl⟩
      · rintro ⟨values, hvalues, rfl⟩
        exact ⟨_, t, ⟨values, hvalues, rfl⟩, rfl⟩

/-! ### Fields in another order -/

/-- Fields without effects yield values exactly if each of them does. -/
theorem passes_iff_of_effectless (h : ∀ field ∈ fields, field.2.Effectless) :
    Passes input fields s values t ↔ t = s ∧ List.Forall₂ (fun field entry => entry.1 = field.1 ∧
      field.2 ((Members.find? input field.1).getD .null) = Outcome.of (.ok entry.2)) fields values := by
  induction fields generalizing values with
  | nil =>
      constructor
      · rintro ⟨⟩
        exact ⟨rfl, .nil⟩
      · rintro ⟨rfl, ⟨⟩⟩
        exact .nil
  | cons field rest ih =>
      obtain ⟨name, f⟩ := field
      obtain ⟨hf, hrest⟩ := List.forall_mem_cons.1 h
      constructor
      · rintro (_ | ⟨head, tail⟩)
        obtain ⟨hvalue, rfl⟩ := hf.runFrom_eq_ok.1 head
        obtain ⟨rfl, hvalues⟩ := (ih hrest).1 tail
        exact ⟨rfl, .cons ⟨rfl, hvalue⟩ hvalues⟩
      · rintro ⟨rfl, hall⟩
        obtain ⟨⟨_, value⟩, values, ⟨rfl, hvalue⟩, hvalues, rfl⟩ := List.forall₂_cons_left_iff.1 hall
        exact .cons (hf.runFrom_eq_ok.2 ⟨hvalue, rfl⟩) ((ih hrest).2 ⟨rfl, hvalues⟩)

/-- Fields without effects yield the same values in any order. -/
theorem Passes.of_perm {others : List (String × Validator (StateM σ))} (hperm : others.Perm fields)
    (heffectless : ∀ field ∈ fields, field.2.Effectless) (h : Passes input fields s values t) :
    ∃ values', Passes input others s values' t ∧ values'.Perm values := by
  obtain ⟨rfl, hvalues⟩ := (passes_iff_of_effectless heffectless).1 h
  obtain ⟨values', hvalues', hperm'⟩ := exists_forall₂_of_perm hperm hvalues
  refine ⟨values', (passes_iff_of_effectless fun field hmem => ?_).2 ⟨rfl, hvalues'⟩, hperm'⟩
  exact heffectless field (hperm.mem_iff.1 hmem)

theorem lookup_eq_find? (fields : List (String × Validator m)) (name : String) :
    fields.lookup name = Members.find? fields name := by
  induction fields with
  | nil => rfl
  | cons field rest ih =>
      obtain ⟨k, f⟩ := field
      rw [lookup_cons, Members.find?_cons, ih]
      simp [eq_comm]

/-- Fields with different names are the validators of their names, in some order. -/
theorem perm_of_lookup {fields others : List (String × Validator m)}
    (hfields : (fields.map Prod.fst).Nodup) (hothers : (others.map Prod.fst).Nodup)
    (h : ∀ name, fields.lookup name = others.lookup name) : fields.Perm others := by
  refine (List.perm_ext_iff_of_nodup hfields.of_map hothers.of_map).2 fun ⟨name, f⟩ => ?_
  rw [← Members.find?_eq_some_iff hfields, ← Members.find?_eq_some_iff hothers, ← lookup_eq_find?,
    ← lookup_eq_find?, h]

/-- Schemas that hold the same validators without effects accept the same objects with the same
results. -/
theorem validateFields_eq_ok_of_get? {schema other : Schema (StateM σ)} (hnodup : schema.names.Nodup)
    (hnodup' : other.names.Nodup) (heffectless : ∀ field ∈ schema.fields, field.2.Effectless)
    (hget : ∀ name, other.get? name = schema.get? name) {strict : Bool} {w : Value}
    (h : (schema.validateFields strict input).runFrom s = (.ok w, t)) :
    (other.validateFields strict input).runFrom s = (.ok w, t) := by
  have hperm : other.fields.Perm schema.fields := perm_of_lookup hnodup' hnodup hget
  obtain ⟨hdeclared, values, hvalues, rfl⟩ := validateFields_eq_ok.1 h
  obtain ⟨values', hvalues', hperm'⟩ := hvalues.of_perm hperm heffectless
  refine validateFields_eq_ok.2 ⟨fun hstrict key hkey => ?_, values', hvalues', ?_⟩
  · exact (hperm.map Prod.fst).mem_iff.2 (hdeclared hstrict key hkey)
  · have hnames : (Members.names values.reverse).Nodup := by
      rw [Members.names, List.map_reverse, List.nodup_reverse, hvalues.names]
      exact hnodup
    refine congrArg Value.object (Members.ofList_eq_of_perm ?_ hnames)
    exact (List.reverse_perm values).trans (hperm'.symm.trans (List.reverse_perm values').symm)

/-! ### What declarations make of a schema -/

/-- A schema alone takes an object as its fields do. -/
theorem validate_object [Monad m] [LawfulMonad m] (schema : Schema m) (input : Members Value) :
    schema.validate (.object input) = schema.validateFields schema.strict input :=
  Outcome.of_ok_bind input _

/-- A property takes an object as the fields of its schema do, and may be strict where the schema is
not. -/
theorem validate_object_of [Monad m] [LawfulMonad m] (schema : Schema m) (strict : Bool)
    (input : Members Value) :
    ({ ObjectProperty.of schema with strict } : ObjectProperty m).validate (.object input) =
      schema.validateFields (strict || schema.strict) input := by
  rw [ObjectProperty.validate, ObjectProperty.of, Property.run_of_ne_null rfl _ (by rintro ⟨⟩) rfl]
  exact Outcome.of_ok_bind input _

/-- What a schema is that some declarations made. -/
structure Registers (schema : Schema (StateM σ))
    (declarations : List (String × Validator (StateM σ))) : Prop where
  holds : schema.Holds declarations
  /-- the schema is asked alone or within a property, and either way its fields are -/
  alone : ∀ input, schema.validate (.object input) = schema.validateFields schema.strict input
  inside : ∀ strict input,
    ({ ObjectProperty.of schema with strict } : ObjectProperty (StateM σ)).validate (.object input) =
      schema.validateFields (strict || schema.strict) input
  /-- a field may take its member out of the input, for no other field asks for it -/
  takes : ∀ input, takeEach input schema.fields =
    (·, leftover input schema.fields) <$> validateEach input schema.fields
  accepts : ∀ strict input s w t, (schema.validateFields strict input).runFrom s = (.ok w, t) ↔
    (strict = true → ∀ key ∈ Members.names input, key ∈ schema.names) ∧
      ∃ values, Passes input schema.fields s values t ∧ w = .object (Members.ofList values)
  /-- the result has the declared names, and under each what its validator yields -/
  yields : ∀ strict input s w t, (schema.validateFields strict input).runFrom s = (.ok w, t) →
    ∃ output, w = .object output ∧ Members.Sorted output ∧
      (∀ name, name ∈ Members.names output ↔ name ∈ schema.names) ∧
        ∀ name validator, schema.get? name = some validator →
          ∃ value, Members.find? output name = some value ∧ ∃ before behind,
            (validator ((Members.find? input name).getD .null)).runFrom before = (.ok value, behind)
  /-- without effects, another schema with the same validators accepts the same with the same results -/
  agrees : ∀ name strict others,
    let other : Schema (StateM σ) := (empty name strict).declareAll others
    (∀ name validator, schema.get? name = some validator → validator.Effectless) →
      (∀ name, other.get? name = schema.get? name) → ∀ strict input s w t,
        (schema.validateFields strict input).runFrom s = (.ok w, t) ↔
          (other.validateFields strict input).runFrom s = (.ok w, t)

namespace Holds

variable {schema : Schema (StateM σ)} {declarations : List (String × Validator (StateM σ))}

theorem mem_fields_iff (h : schema.Holds declarations) {name : String}
    {validator : Validator (StateM σ)} :
    (name, validator) ∈ schema.fields ↔ schema.get? name = some validator := by
  rw [get?, lookup_eq_find?, Members.find?_eq_some_iff h.nodup]

/-- Values of different names make the same table from either end. -/
theorem ofList_reverse (h : schema.Holds declarations)
    (hvalues : Passes input schema.fields s values t) :
    Members.ofList values.reverse = Members.ofList values := by
  refine Members.ofList_eq_of_perm (List.reverse_perm values) ?_
  rw [Members.names, List.map_reverse, List.nodup_reverse, hvalues.names]
  exact h.nodup

theorem accepts (h : schema.Holds declarations) {strict : Bool} {w : Value} :
    (schema.validateFields strict input).runFrom s = (.ok w, t) ↔
      (strict = true → ∀ key ∈ Members.names input, key ∈ schema.names) ∧
        ∃ values, Passes input schema.fields s values t ∧ w = .object (Members.ofList values) := by
  rw [validateFields_eq_ok]
  refine and_congr_right fun _ => exists_congr fun values => and_congr_right fun hvalues => ?_
  rw [h.ofList_reverse hvalues]

theorem yields (h : schema.Holds declarations) (hvalues : Passes input schema.fields s values t) :
    (∀ name, name ∈ Members.names (Members.ofList values) ↔ name ∈ schema.names) ∧
      ∀ name validator, schema.get? name = some validator →
        ∃ value, Members.find? (Members.ofList values) name = some value ∧ ∃ before behind,
          (validator ((Members.find? input name).getD .null)).runFrom before = (.ok value, behind) := by
  have hnodup : (Members.names values).Nodup := by
    rw [Members.names, hvalues.names]
    exact h.nodup
  have hperm : (Members.ofList values).Perm values := Members.perm_ofList hnodup
  refine ⟨fun name => ?_, fun name validator hget => ?_⟩
  · rw [Members.names, (hperm.map _).mem_iff, hvalues.names]
    rfl
  · obtain ⟨value, hmem, hrun⟩ := hvalues.exists_value (h.mem_fields_iff.2 hget)
    refine ⟨value, ?_, hrun⟩
    exact (Members.sorted_ofList values).find?_eq_some_iff.2 (hperm.mem_iff.2 hmem)

end Holds

/-- **Every sequence of declarations makes such a schema.** -/
theorem registers (name : String) (strict : Bool)
    (declarations : List (String × Validator (StateM σ))) :
    ((empty name strict).declareAll declarations).Registers declarations := by
  have h := holds_declareAll name strict declarations
  refine ⟨h, validate_object _, validate_object_of _, takeEach_eq h.nodup, fun _ _ _ _ _ => h.accepts,
    ?_, ?_⟩
  · intro strict input s w t hok
    obtain ⟨-, values, hvalues, rfl⟩ := h.accepts.1 hok
    exact ⟨_, rfl, Members.sorted_ofList values, h.yields hvalues⟩
  · intro name' strict' others other heffectless hget mode input s w t
    have hother : other.Holds others := holds_declareAll name' strict' others
    have hfields : ∀ field ∈ ((empty name strict).declareAll declarations).fields,
        field.2.Effectless := fun field hmem =>
      heffectless field.1 field.2 (h.mem_fields_iff.1 hmem)
    have hothers : ∀ field ∈ other.fields, field.2.Effectless := fun field hmem =>
      heffectless field.1 field.2 (hget field.1 ▸ hother.mem_fields_iff.1 hmem)
    constructor
    · exact validateFields_eq_ok_of_get? h.nodup hother.nodup hfields hget
    · exact validateFields_eq_ok_of_get? hother.nodup h.nodup hothers fun name => (hget name).symm

/-- Two names, the first of which is declared again, as another scalar. -/
def redeclared : List (String × Validator (StateM Unit)) :=
  [("title", (Scalar.of .text).validate), ("copies", (Scalar.of .int).validate),
    ("title", (Scalar.of .bool).validate)]

/-- The same names, each declared once and in the other order. -/
def tidied : List (String × Validator (StateM Unit)) :=
  [("copies", (Scalar.of .int).validate), ("title", (Scalar.of .bool).validate)]

theorem registers_redeclared :
    let schema : Schema (StateM Unit) := (empty "Book" false).declareAll redeclared
    let input : Members Value := [("copies", .int 3), ("title", .bool true)]
    schema.names = ["title", "copies"] ∧
      (schema.validateFields true input).runFrom () = (.ok (.object input), ()) := by
  intro schema input
  refine ⟨rfl, ((registers "Book" false redeclared).agrees "" true tidied ?_ ?_ ..).2 ?_⟩
  · intro name validator hget
    have hmem : (name, validator) ∈ schema.fields :=
      (holds_declareAll "Book" false redeclared).mem_fields_iff.2 hget
    rcases List.mem_pair.1 hmem with heq | heq
    · cases heq
      exact Scalar.effectless_of .bool
    · cases heq
      exact Scalar.effectless_of .int
  · intro name
    show List.lookup name tidied = List.lookup name tidied.reverse
    rw [tidied, List.reverse_cons, List.reverse_singleton, List.singleton_append]
    simp only [lookup_cons]
    by_cases htitle : name = "title"
    · simp [htitle]
    · simp [htitle]
  · rfl

end Schema

end Conform
