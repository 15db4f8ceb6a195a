/-
**Faults have a place.**

If a validator fails, then the path of the fault stands for one location, and there one finds what it
is about: the definition that the location leads to fails on the value there, alone and with the same
fault, or the location ends in an undeclared name.  On the way to that place nothing else was at
fault: fields are validated in the order of their names and items in that of their indices, and
whatever comes first passes.

All this is said of one time.  A default is validated when the validator is built; at the same time it
cannot fail again, and so a location never leads into a default.

Main definitions:

* `Definition.Yields` — what the validator of a definition alone makes of a value;
* `Definition.Enters`, `Definition.Reaches` — steps into a definition and a value together;
* `Definition.Blames` — a fault is about the place that a location leads to.

Main results:

* `Definition.blames_of_answer` — a fault of an answer is about a place;
* `Definition.exists_location_of_error` — **the path of a fault stands for one location**, and the
  fault is about the place there.
-/

import Conform.Proofs.Definition.Leaf
import Conform.Proofs.Definition.Simulation
import Conform.Proofs.Location
import Conform.Proofs.Value.Plain

set_option relaxedAutoImplicit false
set_option autoImplicit false

namespace Conform

/-! ### Clean names -/

namespace Definition

/-- The declared names are clean. -/
def CleanFields : Definition → Prop
  | object fields _ _ => ∀ field ∈ fields, CleanName field.1
  | leaf _ _ | array _ _ _ | choice _ _ => True

instance : DecidablePred CleanFields
  | object fields _ _ => inferInstanceAs (Decidable (∀ field ∈ fields, CleanName field.1))
  | leaf _ _ | array _ _ _ | choice _ _ => isTrue trivial

/-- All declared names, at every depth, are clean. -/
abbrev CleanNames (d : Definition) : Prop := d.Everywhere CleanFields

end Definition

namespace Value

/-- The names of the members, if the value is an object, are clean. -/
def CleanHere : Value → Prop
  | object members => ∀ member ∈ members, CleanName member.1
  | null | bool _ | int _ | float _ | string _ | date _ | datetime _ | array _ => True

instance : DecidablePred CleanHere
  | object members => inferInstanceAs (Decidable (∀ member ∈ members, CleanName member.1))
  | null | bool _ | int _ | float _ | string _ | date _ | datetime _ | array _ => isTrue trivial

/-- The names of members, at every depth, are clean. -/
abbrev CleanKeys (v : Value) : Prop := v.Everywhere CleanHere

end Value

/-! ### Places -/

namespace Definition

/-- The validator of the definition alone, built and run at a time, makes this of the value. -/
def Yields (now : DateTime) (d : Definition) (v : Value) (result : Except Fault Value) : Prop :=
  ∃ f, d.build.asOf now = .ok f ∧ (f v).asOf now = result

/-- A step into a definition and a value: what comes before the part passes, and so does whatever is
checked before any part is. -/
inductive Enters (now : DateTime) : Definition → Value → Segment → Definition → Value → Prop
  /-- a declared field; what is absent counts as null -/
  | field {fields : List (String × Definition)} {strict : Bool} {options : Options}
      {members : Members Value} {name : String} {d : Definition} : (name, d) ∈ fields →
      (strict = true → ∀ key ∈ Members.names members, key ∈ Members.names fields) →
      (∀ sibling ∈ fields, sibling.1 < name →
        ∃ w, Yields now sibling.2 ((Members.find? members sibling.1).getD .null) (.ok w)) →
      Enters now (object fields strict options) (.object members) (.name name) d
        ((Members.find? members name).getD .null)
  /-- an item of an array -/
  | item {items : Definition} {length : LengthBounds} {options : Options} {values : List Value}
      {i : Nat} {v : Value} : values[i]? = some v → length.Admits values.length →
      (∀ k u, k < i → values[k]? = some u → ∃ w, Yields now items u (.ok w)) →
      Enters now (array items length options) (.array values) (.index i) items v

/-- The steps of a location lead from a definition and a value to others. -/
inductive Reaches (now : DateTime) : Location → Definition → Value → Definition → Value → Prop
  | here {d : Definition} {v : Value} : Reaches now [] d v d v
  | step {s : Segment} {l : Location} {d d' e : Definition} {v u x : Value} :
      Enters now d v s d' u → Reaches now l d' u e x → Reaches now (s :: l) d v e x

/-- In a strict object, the name is the least of those that are not declared. -/
def Unexpected (d : Definition) (v : Value) (key : String) : Prop :=
  ∃ fields options members, d = object fields true options ∧ v = .object members ∧
    key ∈ Members.names members ∧ key ∉ Members.names fields ∧
    ∀ other ∈ Members.names members, other ∉ Members.names fields → key ≤ other

/-- The fault is about the place that the location leads to: either the definition there fails on the
value there with this fault, or the location ends in an undeclared name there. -/
def Blames (now : DateTime) (l : Location) (d : Definition) (v : Value) (fault : Fault) : Prop :=
  (∃ d' x, Reaches now l d v d' x ∧ Yields now d' x (.error { fault with path := "" })) ∨
    ∃ front key d' x, l = front ++ [.name key] ∧ Reaches now front d v d' x ∧
      Unexpected d' x key ∧ { fault with path := key } = Fault.unexpectedField key

variable {now : DateTime} {d : Definition} {v : Value} {fault : Fault}

/-- A sound definition alone yields its answer. -/
theorem yields_answer (hd : d.WellFormed) (hs : d.Sound now) (v : Value) :
    Yields now d v (d.answer now v) := by
  obtain ⟨f, hf⟩ := (validator_eq_ok_iff hd).2 hs
  exact ⟨f, hf, asOf_of_validator hd hf v⟩

/-- A fault within a part is about the same place, seen from the whole. -/
theorem Blames.step {s : Segment} {l : Location} {d' : Definition} {u : Value} {inner : Fault}
    (hstep : Enters now d v s d' u) (h : Blames now l d' u inner) :
    Blames now (s :: l) d v (inner.within s.text) := by
  rcases h with ⟨e, x, hreach, hyields⟩ | ⟨front, key, e, x, rfl, hreach, hkey, hfault⟩
  · exact .inl ⟨e, x, .step hstep hreach, hyields⟩
  · exact .inr ⟨s :: front, key, e, x, rfl, .step hstep hreach, hkey, hfault⟩

/-- A fault without path is about the value itself. -/
theorem blames_here (hd : d.WellFormed) (hs : d.Sound now) (h : answer now d v = .error fault)
    (hpath : fault.path = "") :
    ∃ l : Location, l.Clean ∧ l.render = fault.path ∧ Blames now l d v fault := by
  refine ⟨[], List.forall_mem_nil _, hpath.symm, .inl ⟨d, v, .here, ?_⟩⟩
  have hsame : ({ fault with path := "" } : Fault) = fault := by
    rw [← hpath]
  rw [hsame, ← h]
  exact yields_answer hd hs v

/-- A default that is accepted cannot fail: where there is a fault, the value stands for itself. -/
theorem standIn_of_error {options : Options} {body : Value → Except Fault Value}
    (hdefault : options.default ≠ none → ∃ w, options.answer body .null = .ok w)
    (h : options.answer body v = .error fault) : options.standIn v = v := by
  by_cases hv : v = .null
  · subst hv
    cases hj : options.default with
    | none => simp [Options.standIn, hj]
    | some j =>
        obtain ⟨w, hw⟩ := hdefault (by simp [hj])
        rw [h] at hw
        cases hw
  · exact Options.standIn_of_ne_null hv

/-- A fault of fields is that of the first field that fails. -/
theorem answerFields_eq_error {fields : List (String × Definition)} {members : Members Value}
    (h : answerFields now fields members = .error fault) :
    ∃ front name d rest inner, fields = front ++ (name, d) :: rest ∧
      (∀ field ∈ front, ∃ w,
        answer now field.2 ((Members.find? members field.1).getD .null) = .ok w) ∧
      answer now d ((Members.find? members name).getD .null) = .error inner ∧
      fault = inner.within name := by
  induction fields with
  | nil => cases h
  | cons field fields ih =>
      obtain ⟨name, d⟩ := field
      rcases bind_eq_error.1 h with h | ⟨w, hw, h⟩
      · obtain ⟨inner, hinner, rfl⟩ := mapError_eq_error.1 h
        exact ⟨[], name, d, fields, inner, rfl, List.forall_mem_nil _, hinner, rfl⟩
      · rcases bind_eq_error.1 h with h | ⟨_, -, h⟩
        · obtain ⟨front, key, e, rest, inner, rfl, hfront, hinner, rfl⟩ := ih h
          refine ⟨(name, d) :: front, key, e, rest, inner, rfl, ?_, hinner, rfl⟩
          exact List.forall_mem_cons.2 ⟨⟨w, mapError_eq_ok.1 hw⟩, hfront⟩
        · cases h

/-- A fault of items is that of the first item that fails. -/
theorem answerItems_eq_error {answer : Value → Except Fault Value} {values : List Value} :
    ∀ {index : Nat}, answerItems answer index values = .error fault →
      ∃ i u inner, values[i]? = some u ∧ (∀ k x, k < i → values[k]? = some x → ∃ w,
        answer x = .ok w) ∧ answer u = .error inner ∧ fault = inner.atIndex (index + i) := by
  induction values with
  | nil => exact fun h => nomatch h
  | cons value values ih =>
      intro index h
      rcases bind_eq_error.1 h with h | ⟨w, hw, h⟩
      · obtain ⟨inner, hinner, rfl⟩ := mapError_eq_error.1 h
        exact ⟨0, value, inner, rfl, fun k x hk => absurd hk (Nat.not_lt_zero k), hinner, rfl⟩
      · rcases bind_eq_error.1 h with h | ⟨_, -, h⟩
        · obtain ⟨i, u, inner, hu, hfront, hinner, rfl⟩ := ih h
          refine ⟨i + 1, u, inner, hu, ?_, hinner, by rw [Nat.succ_add_eq_add_succ]⟩
          intro k x hk hx
          cases k with
          | zero => exact ⟨w, (Option.some.inj hx) ▸ mapError_eq_ok.1 hw⟩
          | succ k => exact hfront k x (by omega) hx
        · cases h

/-- A fault of an undeclared name is about the least one. -/
theorem expectDeclared_eq_error {strict : Bool} {fields : List (String × Definition)}
    {members : Members Value} (hsorted : Members.Sorted members)
    (h : expectDeclared strict fields members = .error fault) :
    ∃ key, strict = true ∧ fault = Fault.unexpectedField key ∧ key ∈ Members.names members ∧
      key ∉ Members.names fields ∧
      ∀ other ∈ Members.names members, other ∉ Members.names fields → key ≤ other := by
  rw [expectDeclared] at h
  split at h
  · next key hfind =>
      cases strict with
      | false => cases h
      | true =>
          cases h
          obtain ⟨hnot, front, rest, hnames, hfront⟩ := List.find?_eq_some_iff_append.1 hfind
          have hnames' : Members.names members = front ++ key :: rest := hnames
          have hascend : (Members.names members).Pairwise (· < ·) := List.pairwise_map.2 hsorted
          rw [hnames', List.pairwise_append] at hascend
          obtain ⟨hlt, -⟩ := List.pairwise_cons.1 hascend.2.1
          refine ⟨key, rfl, rfl, ?_, by simpa using hnot, ?_⟩
          · rw [hnames']
            simp
          · intro other hother hundeclared
            rw [hnames', List.mem_append, List.mem_cons] at hother
            rcases hother with hother | rfl | hother
            · exact absurd (by simpa using hfront other hother) hundeclared
            · exact String.le_refl _
            · exact String.not_lt.1 fun hgt =>
                String.lt_irrefl _ (String.lt_trans hgt (hlt other hother))
  · cases h

/-- A fault of an undeclared name is about the place that its path stands for. -/
theorem blames_undeclared {fields : List (String × Definition)} {strict : Bool}
    {options : Options} {members : Members Value} (hv : (Value.object members).WellFormed)
    (hkeys : (Value.object members).CleanKeys)
    (h : expectDeclared strict fields members = .error fault) :
    ∃ l : Location, l.Clean ∧ l.render = fault.path ∧
      Blames now l (object fields strict options) (.object members) fault := by
  obtain ⟨key, rfl, rfl, hkey, hnot, hleast⟩ := expectDeclared_eq_error hv.1 h
  obtain ⟨member, hmem, rfl⟩ := List.mem_map.1 hkey
  have hclean : CleanName member.1 := hkeys.here member hmem
  refine ⟨[.name member.1], List.forall_mem_singleton.2 hclean, ?_,
    .inr ⟨[], member.1, _, _, rfl, .here, ⟨fields, options, members, rfl, rfl, hkey, hnot,
      hleast⟩, ?_⟩⟩
  · simp [Location.render, Location.behind, Segment.text, Fault.unexpectedField, Fault.within,
      Fault.new]
  · simp [Fault.unexpectedField, Fault.within, Fault.new]

/-- If the fields in front of a field have results, then a step leads into it. -/
theorem enters_field {fields front rest : List (String × Definition)} {strict : Bool}
    {options : Options} {members : Members Value} {name : String} {d : Definition}
    (hd : (object fields strict options).WellFormed)
    (hs : (object fields strict options).Sound now)
    (hdeclared : expectDeclared strict fields members = .ok ())
    (hfields : fields = front ++ (name, d) :: rest)
    (hfront : ∀ field ∈ front, ∃ w,
      answer now field.2 ((Members.find? members field.1).getD .null) = .ok w) :
    Enters now (object fields strict options) (.object members) (.name name) d
      ((Members.find? members name).getD .null) := by
  have hsorted : Members.Sorted fields := hd.1
  have hmem : (name, d) ∈ fields := by
    rw [hfields]
    simp
  refine .field hmem (expectDeclared_eq_ok.1 hdeclared) fun sibling hsibling hlt => ?_
  -- a smaller name stands in front, as the fields are sorted
  obtain ⟨w, hw⟩ := hfront sibling
    (Members.mem_front (hfields ▸ hsorted) (hfields ▸ hsibling) hlt)
  refine ⟨w, ?_⟩
  rw [← hw]
  exact yields_answer ((everywhere_object.1 hd).2 _ hsibling)
    ((everywhere_object.1 hs).2 _ hsibling) _

/-- If the items in front of an item have results, then a step leads into it. -/
theorem enters_item {items : Definition} {length : LengthBounds} {options : Options}
    {values : List Value} {i : Nat} {u : Value} (hd : items.WellFormed) (hs : items.Sound now)
    (hu : values[i]? = some u) (hadmits : length.bounds.admits (some values.length) = true)
    (hfront : ∀ k x, k < i → values[k]? = some x → ∃ w, answer now items x = .ok w) :
    Enters now (array items length options) (.array values) (.index i) items u := by
  refine .item hu (LengthBounds.admits_iff.1 hadmits) fun k x hk hx => ?_
  obtain ⟨w, hw⟩ := hfront k x hk hx
  refine ⟨w, ?_⟩
  rw [← hw]
  exact yields_answer hd hs x

/-- A fault of an answer is about the place that its path stands for. -/
theorem blames_of_answer {d : Definition} (hd : d.WellFormed) (hs : d.Sound now)
    (hnames : d.CleanNames) : ∀ {v : Value} {fault : Fault}, v.WellFormed → v.CleanKeys →
      answer now d v = .error fault →
        ∃ l : Location, l.Clean ∧ l.render = fault.path ∧ Blames now l d v fault := by
  induction d with
  | leaf type options =>
      intro v fault _ _ h
      refine blames_here hd hs h ?_
      rcases Options.answer_eq_error.1 h with ⟨-, -, rfl⟩ | ⟨-, h⟩
      · rfl
      · exact LeafType.pathless_answer now type _ fault h
  | object fields strict options ih =>
      intro v fault hv hkeys h
      -- the default would not fail, so the fault is one of the input itself
      have hstand : options.standIn v = v := standIn_of_error hs.1 h
      have hbody := Options.answer_eq_error.1 h
      rw [hstand] at hbody
      rcases hbody with ⟨-, -, rfl⟩ | ⟨-, hbody⟩
      · exact blames_here hd hs h rfl
      rcases bind_eq_error.1 hbody with hkind | ⟨members, hmembers, hinside⟩
      · exact blames_here hd hs h (pathless_membersOf v fault hkind)
      obtain rfl := Schema.membersOf_eq_ok.1 hmembers
      rcases bind_eq_error.1 hinside with hundeclared | ⟨⟨⟩, hdeclared, hout⟩
      · exact blames_undeclared hv hkeys hundeclared
      · obtain ⟨front, name, d, rest, inner, hfields, hfront, hinner, rfl⟩ :=
          answerFields_eq_error (map_eq_error.1 hout)
        have hmem : (name, d) ∈ fields := by
          rw [hfields]
          simp
        obtain ⟨l, hl, hrender, hblames⟩ := ih (name, d) hmem
          ((everywhere_object.1 hd).2 _ hmem) ((everywhere_object.1 hs).2 _ hmem)
          ((everywhere_object.1 hnames).2 _ hmem)
          (hv.find? trivial name) (hkeys.find? trivial name) hinner
        refine ⟨.name name :: l, ?_, (Location.render_cons hl hrender.symm (.name name)).symm,
          hblames.step (enters_field hd hs hdeclared hfields hfront)⟩
        exact Location.clean_cons.2 ⟨hnames.1 _ hmem, hl⟩
  | array items length options ih =>
      intro v fault hv hkeys h
      rcases Options.answer_eq_error.1 h with ⟨-, -, rfl⟩ | ⟨-, hbody⟩
      · exact blames_here hd hs h rfl
      rcases bind_eq_error.1 hbody with hkind | ⟨values, hvalues, hbody⟩
      · exact blames_here hd hs h (pathless_itemsOf _ fault hkind)
      split at hbody
      · next hadmits =>
          obtain ⟨i, u, inner, hu, hfront, hinner, rfl⟩ := answerItems_eq_error (map_eq_error.1 hbody)
          have hitem : u ∈ values := List.mem_of_getElem? hu
          -- the empty array that stands in for null has no items
          have hv : v = .array values := by
            have hstand := ArrayProperty.itemsOf_eq_ok.1 hvalues
            cases v with
            | null =>
                cases hstand
                cases hitem
            | _ => exact hstand
          subst hv
          obtain ⟨l, hl, hrender, hblames⟩ := ih hd.2 hs.2 hnames.2
            (hv.item hitem) (hkeys.item hitem) hinner
          rw [Nat.zero_add]
          refine ⟨.index i :: l, ?_, (Location.render_cons hl hrender.symm (.index i)).symm,
            hblames.step (enters_item hd.2 hs.2 hu hadmits hfront)⟩
          exact Location.clean_cons.2 ⟨trivial, hl⟩
      · refine blames_here hd hs h ?_
        cases hbody
        rfl
  | choice entries options ih =>
      intro v fault _ _ h
      refine blames_here hd hs h ?_
      rcases Options.answer_eq_error.1 h with ⟨-, -, rfl⟩ | ⟨-, hbody⟩
      · rfl
      · split at hbody
        · cases hbody
        · cases hbody
          rfl

/-- **The path of a fault stands for one location, and the fault is about the place there.** -/
theorem exists_location_of_error {d : Definition} (hd : d.WellFormed) (hnames : d.CleanNames)
    (hv : v.WellFormed) (hkeys : v.CleanKeys) {f : Validator Clocked}
    (hbuild : d.build.asOf now = .ok f) (hrun : (f v).asOf now = .error fault) :
    ∃ l : Location, l.Clean ∧ l.render = fault.path ∧
      (∀ other : Location, other.Clean → other.render = fault.path → other = l) ∧
      Blames now l d v fault := by
  have hs : d.Sound now := (validator_eq_ok_iff hd).1 ⟨f, hbuild⟩
  rw [asOf_of_validator hd hbuild] at hrun
  obtain ⟨l, hl, hrender, hblames⟩ := blames_of_answer hd hs hnames hv hkeys hrun
  refine ⟨l, hl, hrender, fun other hother hsame => ?_, hblames⟩
  exact Location.render_injective hother hl (hsame.trans hrender.symm)

/-- A basket: what it is for, and what is in it. -/
def basket : Definition :=
  object [("for", leaf .bool .standard), ("fruit", array (object [("name",
    leaf (.string ⟨none, some 4⟩) ⟨false, none⟩)] true .standard) ⟨none, none⟩ .standard)] true
      .standard

/-- A basket of two fruits, the second with a name too long. -/
def basketInput : Value :=
  .object [("fruit", .array [.object [("name", .string "plum")], .object [("name", .string "peach")]])]

theorem exists_location_of_error_basket : ∃ f, basket.build.asOf DateTime.epoch = .ok f ∧
    (f basketInput).asOf DateTime.epoch =
      .error ⟨.rangeViolation, "value 'peach' is out of defined range", "fruit[1].name"⟩ ∧
    ∃ l : Location, l.Clean ∧ l.render = "fruit[1].name" ∧
      (∀ other : Location, other.Clean → other.render = "fruit[1].name" → other = l) ∧
      Blames DateTime.epoch l basket basketInput
        ⟨.rangeViolation, "value 'peach' is out of defined range", "fruit[1].name"⟩ := by
  have hd : basket.WellFormed := by decide
  have hkeys : basketInput.CleanKeys := by decide
  have hv : basketInput.WellFormed := by decide
  obtain ⟨f, hf⟩ : ∃ f, basket.build.asOf DateTime.epoch = .ok f := ⟨_, rfl⟩
  have hrun : (f basketInput).asOf DateTime.epoch =
      .error ⟨.rangeViolation, "value 'peach' is out of defined range", "fruit[1].name"⟩ := by
    rw [asOf_of_validator hd hf]
    rfl
  exact ⟨f, hf, hrun, exists_location_of_error hd (by decide) hv hkeys hf hrun⟩

end Definition

end Conform
