/-
**Strictness.**

A strict object refuses names that are not declared; any other drops them.  This module shows that
strictness is this refusal and nothing else, for definitions without choices.  Such a definition is
compared with its lenient form, in which no object is strict.

A definition governs the value that it stands for, an object's field the member of its name, and an
array's items each item.  To prune a value is to remove all undeclared names from the objects in it
that an object definition governs.  The lenient form cannot tell a value from the pruned one.  And the
definition accepts what its lenient form accepts, with the same result, unless some strict object
within it governs an undeclared name.

Within a choice this fails: with a strict entry a value may go to a later one.

Main definitions:

* `Definition.ChoiceFree` — there is no choice within the definition;
* `Definition.lenient` — the definition in which no object is strict;
* `Definition.prune` — a value without the names that the definition does not declare;
* `Definition.Governs` — the definitions and values that stand for each other;
* `Definition.Declared` — strict objects govern declared names only;
* `Definition.LenientWhereDeclared` — a definition has the results of its lenient form, but not where a
  strict object governs an undeclared name.

Main results:

* `Definition.answer_lenient_prune` — undeclared names are not seen by the lenient form;
* `Definition.lenientWhereDeclared` — what strictness adds to an answer;
* `Definition.names_of_governs_prune` — in a pruned value all names are declared;
* `Definition.strictness_of_build` — **strictness is the refusal of undeclared names**, for validators.
-/

import Conform.Proofs.Definition.Simulation

set_option relaxedAutoImplicit false
set_option autoImplicit false

namespace Conform

namespace Definition

/-! ### Definitions without choices -/

/-- The definition is not a choice. -/
def NoChoice : Definition → Prop
  | choice _ _ => False
  | leaf _ _ | object _ _ _ | array _ _ _ => True

instance : DecidablePred NoChoice
  | choice _ _ => isFalse id
  | leaf _ _ | object _ _ _ | array _ _ _ => isTrue trivial

/-- There is no choice within the definition. -/
abbrev ChoiceFree (d : Definition) : Prop := d.Everywhere NoChoice

/-! ### The lenient form -/

mutual

/-- The definition in which no object is strict. -/
def lenient : Definition → Definition
  | leaf type options => leaf type options
  | object fields _ options => object (lenientFields fields) false options
  | array items length options => array (lenient items) length options
  | choice entries options => choice (lenientEntries entries) options

/-- The lenient forms of fields. -/
def lenientFields : List (String × Definition) → List (String × Definition)
  | [] => []
  | (name, d) :: rest => (name, lenient d) :: lenientFields rest

/-- The lenient forms of the entries of a choice. -/
def lenientEntries : List (ChoiceEntry Definition) → List (ChoiceEntry Definition)
  | [] => []
  | .literal j :: rest => .literal j :: lenientEntries rest
  | .property d :: rest => .property (lenient d) :: lenientEntries rest

end

theorem lenientFields_eq_map (fields : List (String × Definition)) :
    lenientFields fields = fields.map fun field => (field.1, field.2.lenient) := by
  induction fields with
  | nil => rfl
  | cons field rest ih => rw [lenientFields, ih, List.map_cons]

theorem names_lenientFields (fields : List (String × Definition)) :
    Members.names (lenientFields fields) = Members.names fields := by
  rw [lenientFields_eq_map]
  exact Members.names_mapEntries lenient fields

theorem wellFormed_lenient {d : Definition} (hd : d.WellFormed) (hfree : d.ChoiceFree) :
    d.lenient.WellFormed := by
  induction d with
  | leaf type options => exact hd
  | object fields strict options ih =>
      obtain ⟨hsorted, hfields⟩ := everywhere_object.1 hd
      have hfree := (everywhere_object.1 hfree).2
      rw [lenient]
      refine everywhere_object.2 ⟨(Members.sorted_congr (names_lenientFields fields)).2 hsorted, ?_⟩
      rw [lenientFields_eq_map]
      refine List.forall_mem_map.2 fun field hmem => ?_
      exact ih field hmem (hfields field hmem) (hfree field hmem)
  | array items length options ih => exact ⟨trivial, ih hd.2 hfree.2⟩
  | choice entries options ih => exact hfree.1.elim

/-! ### Pruned values -/

mutual

/-- The value without the names that the definition does not declare. -/
def prune : Definition → Value → Value
  | object fields _ _, value =>
    match value with
    | .object members => .object (members.filterMap (pruneMember fields))
    | other => other
  | array items _ _, value =>
    match value with
    | .array values => .array (values.map (prune items))
    | other => other
  | leaf _ _, value | choice _ _, value => value

/-- The member with its value pruned, if its name is declared. -/
def pruneMember : List (String × Definition) → String × Value → Option (String × Value)
  | [], _ => none
  | (name, d) :: rest, member =>
    if name = member.1 then some (name, prune d member.2) else pruneMember rest member

end

variable {fields : List (String × Definition)}

/-- A member whose name is declared is left, and pruned by the definition of this name. -/
theorem pruneMember_of_mem {name : String} {d : Definition} (hsorted : Members.Sorted fields)
    (hmem : (name, d) ∈ fields) (v : Value) :
    pruneMember fields (name, v) = some (name, d.prune v) := by
  induction fields with
  | nil => cases hmem
  | cons field rest ih =>
      obtain ⟨key, e⟩ := field
      obtain ⟨hlt, hrest⟩ := List.pairwise_cons.1 hsorted
      rw [pruneMember]
      rcases List.mem_cons.1 hmem with heq | hmem
      · cases heq
        exact if_pos rfl
      · rw [if_neg (String.ne_of_lt (hlt (name, d) hmem)), ih hrest hmem]

/-- What is left of a member has its name, which is declared. -/
theorem name_of_pruneMember {member member' : String × Value}
    (h : pruneMember fields member = some member') :
    member'.1 = member.1 ∧ member'.1 ∈ Members.names fields := by
  induction fields with
  | nil => cases h
  | cons field rest ih =>
      obtain ⟨key, e⟩ := field
      rw [pruneMember] at h
      split at h
      · next heq =>
          cases h
          exact ⟨heq, List.mem_cons_self ..⟩
      · exact ⟨(ih h).1, List.mem_cons_of_mem _ (ih h).2⟩

/-- Under a declared name, a pruned object holds what it held before, pruned. -/
theorem find?_prune {name : String} {d : Definition} (hsorted : Members.Sorted fields)
    (hmem : (name, d) ∈ fields) (members : Members Value) :
    Members.find? (members.filterMap (pruneMember fields)) name =
      (Members.find? members name).map d.prune := by
  induction members with
  | nil => rfl
  | cons member rest ih =>
      obtain ⟨key, v⟩ := member
      rw [Members.find?_cons]
      by_cases hkey : key = name
      · subst hkey
        rw [List.filterMap_cons_some (pruneMember_of_mem hsorted hmem v), Members.find?_cons,
          if_pos rfl, if_pos rfl, Option.map_some]
      · rw [if_neg hkey, ← ih]
        cases hprune : pruneMember fields (key, v) with
        | none => rw [List.filterMap_cons_none hprune]
        | some member' =>
            rw [List.filterMap_cons_some hprune]
            exact if_neg fun heq => hkey ((name_of_pruneMember hprune).1.symm.trans heq)

/-- Items are answered like items that are answered alike. -/
theorem answerItems_map {answer : Value → Except Fault Value} {g : Value → Value}
    (h : ∀ v, answer (g v) = answer v) (values : List Value) :
    ∀ index, answerItems answer index (values.map g) = answerItems answer index values := by
  induction values with
  | nil => exact fun _ => rfl
  | cons value rest ih =>
      intro index
      rw [List.map_cons, answerItems, answerItems, h, ih]

/-- The lenient form answers alike to a value and to the pruned one. -/
theorem answer_lenient_prune {now : DateTime} {d : Definition} (hd : d.WellFormed)
    (hfree : d.ChoiceFree) :
    ∀ v, answer now d.lenient (d.prune v) = answer now d.lenient v := by
  induction d with
  | leaf type options => exact fun v => rfl
  | object fields strict options ih =>
      intro v
      obtain ⟨hsorted, hfields⟩ := everywhere_object.1 hd
      have hfree := (everywhere_object.1 hfree).2
      cases v with
      | object members =>
          -- only declared names are looked up, and pruning keeps these
          have heach : ∀ field ∈ lenientFields fields,
              answer now field.2 ((Members.find? (members.filterMap (pruneMember fields))
                field.1).getD .null) =
                answer now field.2 ((Members.find? members field.1).getD .null) := by
            rw [lenientFields_eq_map]
            refine List.forall_mem_map.2 fun field hmem => ?_
            rw [find?_prune hsorted hmem members]
            cases Members.find? members field.1 with
            | none => rfl
            | some u => exact ih field hmem (hfields field hmem) (hfree field hmem) u
          rw [prune, lenient, answer, Options.answer_of_ne_null (by simp),
            Options.answer_of_ne_null (by simp)]
          simp only [Schema.membersOf, ok_bind, expectDeclared_false,
            answerFields_eq_of_find? heach]
      | _ => rfl
  | array items length options ih =>
      intro v
      cases v with
      | array values =>
          have hitems : answerItems (answer now items.lenient) 0 (values.map items.prune) =
              answerItems (answer now items.lenient) 0 values :=
            answerItems_map (ih hd.2 hfree.2) values 0
          rw [prune, lenient, answer, Options.answer_of_ne_null (by simp),
            Options.answer_of_ne_null (by simp)]
          simp only [ArrayProperty.itemsOf, ok_bind, List.length_map, hitems]
      | _ => rfl
  | choice entries options ih => exact hfree.1.elim

/-! ### What is governed -/

/-- Within a definition and a value that it stands for, a definition and the value that this one
stands for. -/
inductive Governs : Definition → Value → Definition → Value → Prop
  | here (d : Definition) (v : Value) : Governs d v d v
  | field {fields : List (String × Definition)} {strict : Bool} {options : Options}
      {members : Members Value} {name : String} {d e : Definition} {u x : Value} :
      (name, d) ∈ fields → Members.find? members name = some u → Governs d u e x →
      Governs (object fields strict options) (.object members) e x
  | item {items e : Definition} {length : LengthBounds} {options : Options} {values : List Value}
      {u x : Value} : u ∈ values → Governs items u e x →
      Governs (array items length options) (.array values) e x

/-- No strict object governs an object with an undeclared name. -/
def Declared (d : Definition) (v : Value) : Prop :=
  ∀ fields options members, Governs d v (object fields true options) (.object members) →
    ∀ name ∈ Members.names members, name ∈ Members.names fields

/-- What is governed within a pruned value is what was governed within the value, pruned. -/
theorem governs_of_prune {d e : Definition} {v x : Value} (hd : d.WellFormed)
    (h : Governs d (d.prune v) e x) : ∃ u, Governs d v e u ∧ x = e.prune u := by
  -- by induction on the way to the part; at each step the value in front was pruned from another
  generalize hpruned : d.prune v = y at h
  induction h generalizing v with
  | here d y => exact ⟨v, .here d v, hpruned.symm⟩
  | @field fields strict options members name d e u x hmem hfind hgoverns ih =>
      obtain ⟨hsorted, hfields⟩ := everywhere_object.1 hd
      cases v with
      | object inputs =>
          cases hpruned
          rw [find?_prune hsorted hmem inputs] at hfind
          obtain ⟨input, hinput, hu⟩ := Option.map_eq_some_iff.1 hfind
          obtain ⟨u', hgoverns', hx⟩ := ih (hfields _ hmem) hu
          exact ⟨u', .field hmem hinput hgoverns', hx⟩
      | _ => cases hpruned
  | @item items e length options values u x hmem hgoverns ih =>
      cases v with
      | array inputs =>
          cases hpruned
          obtain ⟨input, hinput, hu⟩ := List.mem_map.1 hmem
          obtain ⟨u', hgoverns', hx⟩ := ih hd.2 hu
          exact ⟨u', .item hinput hgoverns', hx⟩
      | _ => cases hpruned

/-- In a pruned value, every object that an object definition governs has declared names only. -/
theorem names_of_governs_prune {d : Definition} {v : Value} (hd : d.WellFormed)
    {fields : List (String × Definition)} {strict : Bool} {options : Options}
    {members : Members Value}
    (h : Governs d (d.prune v) (object fields strict options) (.object members)) :
    ∀ name ∈ Members.names members, name ∈ Members.names fields := by
  obtain ⟨u, -, hu⟩ := governs_of_prune hd h
  intro name hname
  cases u with
  | object inputs =>
      cases hu
      obtain ⟨member, hmember, rfl⟩ := List.mem_map.1 hname
      obtain ⟨input, -, hinput⟩ := List.mem_filterMap.1 hmember
      exact (name_of_pruneMember hinput).2
  | _ => cases hu

variable {strict : Bool} {options : Options} {v : Value}

theorem declared_leaf {type : LeafType} : Declared (leaf type options) v := by
  intro fields options members h
  cases h

theorem declared_null {d : Definition} : Declared d .null := by
  intro fields options members h
  cases h

/-- The names in an object are declared if they are its own and in all its members. -/
theorem declared_object_iff {members : Members Value} :
    Declared (object fields strict options) (.object members) ↔
      (strict = true → ∀ name ∈ Members.names members, name ∈ Members.names fields) ∧
        ∀ field ∈ fields, ∀ u, Members.find? members field.1 = some u → Declared field.2 u := by
  constructor
  · intro h
    refine ⟨?_, fun field hmem u hu fields' options' members' hgoverns =>
      h fields' options' members' (.field hmem hu hgoverns)⟩
    rintro rfl
    exact h fields options members (.here _ _)
  · rintro ⟨hhere, hfields⟩ fields' options' members' hgoverns
    cases hgoverns with
    | here => exact hhere rfl
    | field hmem hu hgoverns => exact hfields _ hmem _ hu _ _ _ hgoverns

/-- The names in an array are declared if they are in all its items. -/
theorem declared_array_iff {items : Definition} {length : LengthBounds} {values : List Value} :
    Declared (array items length options) (.array values) ↔ ∀ u ∈ values, Declared items u := by
  constructor
  · exact fun h u hu fields' options' members' hgoverns =>
      h fields' options' members' (.item hu hgoverns)
  · intro h fields' options' members' hgoverns
    cases hgoverns with
    | item hu hgoverns => exact h _ hu _ _ _ hgoverns

/-! ### What strictness adds -/

variable {start now : DateTime}

/-- The definition has the results of its lenient form where names are declared, and no others. -/
def LenientWhereDeclared (now : DateTime) (d : Definition) : Prop :=
  ∀ v w, answer now d v = .ok w ↔ answer now d.lenient v = .ok w ∧ Declared d v

/-- Fields that are lenient where names are declared are so together. -/
theorem answerFields_iff_lenient {members out : Members Value}
    (hfields : ∀ field ∈ fields, LenientWhereDeclared now field.2) :
    answerFields now fields members = .ok out ↔
      answerFields now (lenientFields fields) members = .ok out ∧
        ∀ field ∈ fields, ∀ u, Members.find? members field.1 = some u → Declared field.2 u := by
  have hpresent : ∀ field : String × Definition,
      Declared field.2 ((Members.find? members field.1).getD .null) ↔
        ∀ u, Members.find? members field.1 = some u → Declared field.2 u := by
    intro field
    cases Members.find? members field.1 <;> simp [declared_null]
  rw [answerFields_eq_ok, answerFields_eq_ok, lenientFields_eq_map, List.forall₂_map_left_iff]
  constructor
  · intro h
    have hboth := (List.forall₂_and_left fields out).2 ⟨hfields, h⟩
    have hparts : List.Forall₂ (fun field member =>
        Declared field.2 ((Members.find? members field.1).getD .null) ∧ member.1 = field.1 ∧
          answer now field.2.lenient ((Members.find? members field.1).getD .null) = .ok member.2)
        fields out := by
      refine hboth.imp ?_
      rintro field member ⟨hfield, hname, hanswer⟩
      obtain ⟨hlenient, hdeclared⟩ := (hfield _ _).1 hanswer
      exact ⟨hdeclared, hname, hlenient⟩
    obtain ⟨hdeclared, hlenient⟩ := (List.forall₂_and_left fields out).1 hparts
    exact ⟨hlenient, fun field hmem => (hpresent field).1 (hdeclared field hmem)⟩
  · rintro ⟨hlenient, hdeclared⟩
    have hboth := (List.forall₂_and_left fields out).2
      ⟨fun field hmem => And.intro (hfields field hmem)
        ((hpresent field).2 (hdeclared field hmem)), hlenient⟩
    refine hboth.imp ?_
    rintro field member ⟨⟨hfield, hdeclared⟩, hname, hanswer⟩
    exact ⟨hname, (hfield _ _).2 ⟨hanswer, hdeclared⟩⟩

/-- A default passed the strict objects when the definition was built, so all its names are declared. -/
theorem declared_standIn {inputs : Members Value}
    (hdefault : AcceptsDefault start (object fields strict options))
    (hfields : ∀ field ∈ fields, LenientWhereDeclared start field.2)
    (hinputs : options.standIn v = .object inputs) :
    Declared (object fields strict options) v ↔
      Declared (object fields strict options) (.object inputs) := by
  by_cases hv : v = .null
  · subst hv
    have hne : options.default ≠ none := by
      intro hnone
      simp [Options.standIn, hnone] at hinputs
    obtain ⟨w, hw⟩ := hdefault hne
    refine iff_of_true declared_null ?_
    rcases object_eq_ok.1 hw with ⟨hnull, -⟩ | ⟨inputs', outputs, hinputs', hnames, hout, -⟩
    · rw [hinputs] at hnull
      cases hnull
    · rw [hinputs] at hinputs'
      cases hinputs'
      exact declared_object_iff.2 ⟨hnames, ((answerFields_iff_lenient hfields).1 hout).2⟩
  · rw [← hinputs, Options.standIn_of_ne_null hv]

/-- The empty array that stands in for null has no items. -/
theorem declared_arrayStandIn {items : Definition} {length : LengthBounds} {inputs : List Value}
    (hinputs : arrayOptions.standIn v = .array inputs) :
    Declared (array items length options) v ↔ ∀ u ∈ inputs, Declared items u := by
  by_cases hv : v = .null
  · subst hv
    cases hinputs
    exact iff_of_true declared_null (List.forall_mem_nil _)
  · rw [Options.standIn_of_ne_null hv] at hinputs
    rw [hinputs, declared_array_iff]

/-- **A definition answers like its lenient form where strict objects govern declared names only**, and
has no result elsewhere. -/
theorem lenientWhereDeclared {d : Definition} (hd : d.WellFormed) (hfree : d.ChoiceFree)
    (hs : d.Sound start) : ∀ now, LenientWhereDeclared now d := by
  induction d with
  | leaf type options => exact fun _ _ _ => (and_iff_left declared_leaf).symm
  | object fields strict options ih =>
      intro now v w
      have hfields : ∀ now, ∀ field ∈ fields, LenientWhereDeclared now field.2 :=
        fun now field hmem => ih field hmem ((everywhere_object.1 hd).2 _ hmem)
          ((everywhere_object.1 hfree).2 _ hmem) ((everywhere_object.1 hs).2 _ hmem) now
      rw [lenient, object_eq_ok, object_eq_ok]
      constructor
      · rintro (⟨hnull, hnullable, hw⟩ | ⟨inputs, outputs, hinputs, hnames, hout, hw⟩)
        · obtain rfl := (Options.standIn_eq_null.1 hnull).1
          exact ⟨.inl ⟨hnull, hnullable, hw⟩, declared_null⟩
        · obtain ⟨hlenient, hinside⟩ := (answerFields_iff_lenient (hfields now)).1 hout
          exact ⟨.inr ⟨inputs, outputs, hinputs, by simp, hlenient, hw⟩,
            (declared_standIn hs.1 (hfields start) hinputs).2
              (declared_object_iff.2 ⟨hnames, hinside⟩)⟩
      · rintro ⟨⟨hnull, hnullable, hw⟩ | ⟨inputs, outputs, hinputs, -, hlenient, hw⟩, hdeclared⟩
        · exact .inl ⟨hnull, hnullable, hw⟩
        · obtain ⟨hnames, hinside⟩ := declared_object_iff.1
            ((declared_standIn hs.1 (hfields start) hinputs).1 hdeclared)
          exact .inr ⟨inputs, outputs, hinputs, hnames,
            (answerFields_iff_lenient (hfields now)).2 ⟨hlenient, hinside⟩, hw⟩
  | array items length options ih =>
      intro now v w
      have hitems : LenientWhereDeclared now items := ih hd.2 hfree.2 hs.2 now
      rw [lenient, array_eq_ok, array_eq_ok]
      constructor
      · rintro ⟨inputs, outputs, hinputs, hadmits, hout, hw⟩
        obtain ⟨hdeclared, hlenient⟩ := (List.forall₂_and_left inputs outputs).1 <|
          hout.imp fun u x hanswer => ((hitems u x).1 hanswer).symm
        exact ⟨⟨inputs, outputs, hinputs, hadmits, hlenient, hw⟩,
          (declared_arrayStandIn hinputs).2 hdeclared⟩
      · rintro ⟨⟨inputs, outputs, hinputs, hadmits, hlenient, hw⟩, hdeclared⟩
        have hboth := (List.forall₂_and_left inputs outputs).2
          ⟨(declared_arrayStandIn hinputs).1 hdeclared, hlenient⟩
        exact ⟨inputs, outputs, hinputs, hadmits,
          hboth.imp fun u x hanswer => (hitems u x).2 hanswer.symm, hw⟩
  | choice entries options ih => exact hfree.1.elim

/-- The lenient form accepts all defaults, so it has a validator if the definition has. -/
theorem sound_lenient {d : Definition} (hd : d.WellFormed) (hfree : d.ChoiceFree)
    (hs : d.Sound start) : d.lenient.Sound start := by
  induction d with
  | leaf type options => exact hs
  | object fields strict options ih =>
      rw [lenient, lenientFields_eq_map]
      refine everywhere_object.2 ⟨?_, List.forall_mem_map.2 fun field hmem => ?_⟩
      · -- the definition accepts its default, hence so does the lenient form
        intro hdefault
        obtain ⟨w, hw⟩ := hs.1 hdefault
        have hlenient := ((lenientWhereDeclared hd hfree hs start .null w).1 hw).1
        rw [lenient, lenientFields_eq_map] at hlenient
        exact ⟨w, hlenient⟩
      · exact ih field hmem ((everywhere_object.1 hd).2 _ hmem)
          ((everywhere_object.1 hfree).2 _ hmem) ((everywhere_object.1 hs).2 _ hmem)
  | array items length options ih => exact ⟨hs.1, ih hd.2 hfree.2 hs.2⟩
  | choice entries options ih => exact hfree.1.elim

/-- **Strictness is the refusal of undeclared names and nothing else.**  The lenient form of a definition
that was built can be built; it yields the same for a value and for the pruned one; and the definition
accepts what it accepts, with the same result, where strict objects govern declared names only. -/
theorem strictness_of_build {d : Definition} (hd : d.WellFormed) (hfree : d.ChoiceFree)
    {f : Validator Clocked} (hbuild : d.build.asOf start = .ok f) :
    ∃ f', d.lenient.build.asOf start = .ok f' ∧
      (∀ v, (f' v).asOf now = (f' (d.prune v)).asOf now) ∧
      ∀ v w, (f v).asOf now = .ok w ↔ (f' v).asOf now = .ok w ∧ Declared d v := by
  have hs : d.Sound start := (validator_eq_ok_iff hd).1 ⟨f, hbuild⟩
  have hd' : d.lenient.WellFormed := wellFormed_lenient hd hfree
  obtain ⟨f', hbuild'⟩ := (@validator_eq_ok_iff start _ hd' "").2 (sound_lenient hd hfree hs)
  refine ⟨f', hbuild', fun v => ?_, fun v w => ?_⟩
  · rw [asOf_of_validator hd' hbuild', asOf_of_validator hd' hbuild',
      answer_lenient_prune hd hfree]
  · rw [asOf_of_validator hd' hbuild', asOf_of_validator hd hbuild]
    exact lenientWhereDeclared hd hfree hs now v w

/-- An order: its lines are strict objects, and one line has a default. -/
def order : Definition :=
  object [("lines", array (object [("article", leaf (.string ⟨none, none⟩) .standard)] true
    ⟨true, some (.obj [("article", .str "sample")])⟩) ⟨none, none⟩ .standard)] false .standard

/-- An order with a name that it does not declare, and a line left out. -/
def annotatedOrder : Value :=
  .object [("lines", .array [.object [("article", .string "pen")], .null]), ("note", .string "gift")]

/-- An order with a name that its line does not declare. -/
def colouredOrder : Value :=
  .object [("lines", .array [.object [("article", .string "pen"), ("colour", .string "red")]])]

theorem strictness_of_build_order : ∃ f f', order.build.asOf DateTime.epoch = .ok f ∧
    order.lenient.build.asOf DateTime.epoch = .ok f' ∧
    Declared order annotatedOrder ∧ (f' annotatedOrder).asOf DateTime.epoch =
      .ok (.object [("lines", .array [.object [("article", .string "pen")],
        .object [("article", .string "sample")]])]) ∧
    (f' colouredOrder).asOf DateTime.epoch =
      (f' (.object [("lines", .array [.object [("article", .string "pen")]])])).asOf DateTime.epoch ∧
    (f colouredOrder).asOf DateTime.epoch =
      .error ⟨.unexpectedField, "object contains undeclared field", "lines[0].colour"⟩ ∧
    ¬ Declared order colouredOrder := by
  have hd : order.WellFormed := by decide
  obtain ⟨f, hf⟩ : ∃ f, order.build.asOf DateTime.epoch = .ok f := ⟨_, rfl⟩
  obtain ⟨f', hf', hprune, hstrict⟩ := strictness_of_build hd (by decide) hf
  have hannotated : (f annotatedOrder).asOf DateTime.epoch =
      .ok (.object [("lines", .array [.object [("article", .string "pen")],
        .object [("article", .string "sample")]])]) := by
    rw [asOf_of_validator hd hf]
    rfl
  have hcoloured : (f colouredOrder).asOf DateTime.epoch =
      .error ⟨.unexpectedField, "object contains undeclared field", "lines[0].colour"⟩ := by
    rw [asOf_of_validator hd hf]
    rfl
  have hlenient : (f' colouredOrder).asOf DateTime.epoch =
      .ok (.object [("lines", .array [.object [("article", .string "pen")]])]) := by
    rw [asOf_of_validator (by decide) hf']
    rfl
  obtain ⟨hresult, hdeclared⟩ := (hstrict _ _).1 hannotated
  refine ⟨f, f', hf, hf', hdeclared, hresult, hprune colouredOrder, hcoloured, fun hdeclared => ?_⟩
  have hboth := (hstrict colouredOrder _).2 ⟨hlenient, hdeclared⟩
  rw [hcoloured] at hboth
  cases hboth

end Definition

end Conform
