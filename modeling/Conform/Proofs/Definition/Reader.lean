/-
**Definitions that are read.**

The reader puts the fields of objects into tables, and it takes defaults from a finite document.  So
what is read is well-formed, at any depth, and has finite defaults.

Main definitions:

* `Options.FiniteDefault` — the default, if there is one, is a finite document;
* `Definition.FiniteDefaults` — so are all defaults in a definition.

Main results:

* `Definition.wellFormed_of_ofJson?` — **a definition that is read is well-formed**;
* `Definition.finiteDefaults_of_ofJson?` — **its defaults are finite**.
-/

import Conform.Proofs.Definition.Parts
import Conform.Proofs.Json.Finite

set_option relaxedAutoImplicit false
set_option autoImplicit false

namespace Conform

/-- The default, if there is one, is finite. -/
def Options.FiniteDefault (options : Options) : Prop := ∀ j, options.default = some j → j.Finite

/-! ### Members that are read -/

/-- What a list is turned into, if every part of it can be, comes from its parts. -/
theorem mem_of_mapM {α β : Type} {f : α → Option β} {b : β} :
    ∀ {as : List α} {bs : List β}, as.mapM f = some bs → b ∈ bs → ∃ a ∈ as, f a = some b := by
  intro as
  induction as with
  | nil =>
      intro bs h hb
      cases h
      cases hb
  | cons a rest ih =>
      intro bs h hb
      rw [List.mapM_cons] at h
      obtain ⟨b', hhead, h⟩ := Option.bind_eq_some_iff.1 h
      obtain ⟨others, hothers, h⟩ := Option.bind_eq_some_iff.1 h
      cases h
      rcases List.mem_cons.1 hb with rfl | hb
      · exact ⟨a, List.mem_cons_self .., hhead⟩
      · obtain ⟨a', ha', hf⟩ := ih hothers hb
        exact ⟨a', List.mem_cons_of_mem _ ha', hf⟩

namespace Json

variable {α : Type} {read : Json → Option α} {members : List (String × Json)} {name : String}
  {j : Json} {a : α}

theorem mem_of_unique? (h : unique? members name = some (some j)) : (name, j) ∈ members := by
  unfold unique? at h
  split at h
  · cases h
  · next member hfilter =>
      cases h
      have hmem : member ∈ members.filter fun member => member.1 = name := by
        rw [hfilter]
        exact List.mem_cons_self ..
      obtain ⟨hmem, hname⟩ := List.mem_filter.1 hmem
      rwa [← of_decide_eq_true hname]
  · cases h

/-- What is read of a member that has to be there is read of one that is there. -/
theorem required?_eq_some (h : required? read members name = some a) :
    ∃ j, (name, j) ∈ members ∧ read j = some a := by
  obtain ⟨found, hfound, h⟩ := Option.bind_eq_some_iff.1 h
  cases found with
  | none => cases h
  | some j => exact ⟨j, mem_of_unique? hfound, h⟩

/-- What is read of an optional member is read of one that is there and not null. -/
theorem optional?_eq_some (h : optional? read members name = some (some a)) :
    ∃ j, (name, j) ∈ members ∧ j ≠ .null ∧ read j = some a := by
  obtain ⟨found, hfound, h⟩ := Option.bind_eq_some_iff.1 h
  split at h
  · cases h
  · cases h
  · next j hnotNull =>
      obtain ⟨a', ha, h⟩ := Option.map_eq_some_iff.1 h
      cases h
      exact ⟨j, mem_of_unique? hfound, hnotNull, ha⟩

/-- What is read of a member with a value of its own is that value, or read of a member. -/
theorem withDefault?_eq_some {fallback : α}
    (h : withDefault? read fallback members name = some a) :
    a = fallback ∨ ∃ j, (name, j) ∈ members ∧ read j = some a := by
  obtain ⟨found, hfound, h⟩ := Option.bind_eq_some_iff.1 h
  cases found with
  | none => exact .inl (Option.some.inj h).symm
  | some j => exact .inr ⟨j, mem_of_unique? hfound, h⟩

end Json

theorem Options.finiteDefault_of_ofMembers? {members : List (String × Json)} {options : Options}
    (hfinite : (Json.obj members).Finite) (h : ofMembers? members = some options) :
    options.FiniteDefault := by
  obtain ⟨nullable, -, h⟩ := Option.bind_eq_some_iff.1 h
  obtain ⟨default, hdefault, h⟩ := Option.bind_eq_some_iff.1 h
  cases h
  intro j hj
  obtain ⟨written, hwritten, rfl⟩ := Option.map_eq_some_iff.1 hj
  rw [hwritten] at hdefault
  obtain ⟨j, hmem, -, hread⟩ := Json.optional?_eq_some hdefault
  cases hread
  exact Json.finite_canonical (hfinite.member hmem)

/-! ### Definitions that are read -/

namespace Definition

/-- Every default is finite. -/
abbrev FiniteDefaults (d : Definition) : Prop := d.Everywhere fun d => d.options.FiniteDefault

/-- The fields of a definition that is read are sorted, and its default is finite. -/
def ReadHere (d : Definition) : Prop := d.SortedFields ∧ d.options.FiniteDefault

variable {inner : Json → Option Definition}

/-- The fields that are read are a table of what is read of the members of an object. -/
theorem fieldsOf?_eq_some {j : Json} {fields : List (String × Definition)}
    (h : ofMembers?.fieldsOf? inner j = some fields) :
    ∃ members, j = .obj members ∧ Members.Sorted fields ∧
      ∀ field ∈ fields, ∃ member ∈ members, inner member.2 = some field.2 := by
  obtain ⟨members, hmembers, h⟩ := Option.bind_eq_some_iff.1 h
  obtain ⟨parts, hparts, h⟩ := Option.bind_eq_some_iff.1 h
  cases h
  cases j with
  | obj written =>
      cases hmembers
      refine ⟨members, rfl, Members.sorted_ofList parts, fun field hfield => ?_⟩
      obtain ⟨member, hmember, hread⟩ := mem_of_mapM hparts (Members.mem_of_mem_ofList hfield)
      obtain ⟨d, hd, rfl⟩ := Option.map_eq_some_iff.1 hread
      exact ⟨member, hmember, hd⟩
  | _ => cases hmembers

/-- The entries that are read are read of the items of an array, each an object with one member. -/
theorem entriesOf?_eq_some {j : Json} {entries : List (ChoiceEntry Definition)}
    (h : ofMembers?.entriesOf? inner j = some entries) :
    ∃ items, j = .arr items ∧ ∀ entry ∈ entries,
      (∃ literal, .obj [("literal", literal)] ∈ items ∧ entry = .literal literal.canonical) ∨
        ∃ part d, .obj [("property", part)] ∈ items ∧ inner part = some d ∧ entry = .property d := by
  obtain ⟨items, hitems, h⟩ := Option.bind_eq_some_iff.1 h
  cases j with
  | arr written =>
      cases hitems
      refine ⟨items, rfl, fun entry hentry => ?_⟩
      obtain ⟨item, hitem, hread⟩ := mem_of_mapM h hentry
      split at hread
      · cases hread
        exact .inl ⟨_, hitem, rfl⟩
      · obtain ⟨d, hd, h⟩ := Option.map_eq_some_iff.1 hread
        exact .inr ⟨_, d, hitem, hd, h.symm⟩
      · cases hread
  | _ => cases hitems

/-- What is read of a finite object is sorted and has finite defaults, if that holds of what is read
within it. -/
theorem everywhere_of_ofMembers? (hinner : ∀ {j d}, Json.Finite j → inner j = some d →
      d.Everywhere ReadHere) {members : List (String × Json)} {d : Definition}
    (hfinite : (Json.obj members).Finite) (h : ofMembers? inner members = some d) :
    d.Everywhere ReadHere := by
  have hmember : ∀ {name j}, (name, j) ∈ members → j.Finite := fun hmem =>
    hfinite.member hmem
  obtain ⟨options, hoptions, h⟩ := Option.bind_eq_some_iff.1 h
  have hdefault := Options.finiteDefault_of_ofMembers? hfinite hoptions
  obtain ⟨type, -, h⟩ := Option.bind_eq_some_iff.1 h
  split at h
  · -- an object
    obtain ⟨fields, hfields, h⟩ := Option.bind_eq_some_iff.1 h
    obtain ⟨strict, -, h⟩ := Option.bind_eq_some_iff.1 h
    cases h
    obtain ⟨j, hj, hread⟩ := Json.required?_eq_some hfields
    obtain ⟨written, rfl, hsorted, hparts⟩ := fieldsOf?_eq_some hread
    refine everywhere_object.2 ⟨⟨hsorted, hdefault⟩, fun field hfield => ?_⟩
    obtain ⟨part, hpart, hread'⟩ := hparts field hfield
    exact hinner ((hmember hj).member hpart) hread'
  · -- an array
    obtain ⟨items, hitems, h⟩ := Option.bind_eq_some_iff.1 h
    obtain ⟨length, -, h⟩ := Option.bind_eq_some_iff.1 h
    cases h
    obtain ⟨j, hj, hread⟩ := Json.required?_eq_some hitems
    exact ⟨⟨trivial, hdefault⟩, hinner (hmember hj) hread⟩
  · -- a choice
    obtain ⟨entries, hentries, h⟩ := Option.bind_eq_some_iff.1 h
    cases h
    obtain ⟨j, hj, hread⟩ := Json.required?_eq_some hentries
    refine everywhere_choice.2 ⟨⟨trivial, hdefault⟩, fun d hd => ?_⟩
    obtain ⟨items, rfl, hitems⟩ := entriesOf?_eq_some hread
    obtain ⟨literal, -, heq⟩ | ⟨part, d', hpart, hread', heq⟩ := hitems _ hd
    · cases heq
    · cases heq
      have hfinite' := (hmember hj).item hpart
      exact hinner (hfinite'.member (List.mem_singleton_self _)) hread'
  · -- a leaf
    obtain ⟨leaf, -, rfl⟩ := Option.map_eq_some_iff.1 h
    exact ⟨trivial, hdefault⟩

/-- So is whatever is read of a finite document. -/
theorem everywhere_of_ofJson? {j : Json} {d : Definition} (hfinite : j.Finite)
    (h : ofJson? j = some d) : d.Everywhere ReadHere := by
  -- the induction is on the depth down to which the document is read
  have hwithin : ∀ {depth : Nat} {j : Json} {d : Definition}, j.Finite →
      ofJsonWithin? depth j = some d → d.Everywhere ReadHere := by
    intro depth
    induction depth with
    | zero =>
        intro j d _ h
        cases h
    | succ depth ih =>
        intro j d hfinite h
        obtain ⟨members, hmembers, h⟩ := Option.bind_eq_some_iff.1 h
        cases j with
        | obj written =>
            cases hmembers
            exact everywhere_of_ofMembers? ih hfinite h
        | _ => cases hmembers
  exact hwithin hfinite h

/-- **A definition that is read is well-formed.** -/
theorem wellFormed_of_ofJson? {j : Json} {d : Definition} (hfinite : j.Finite)
    (h : ofJson? j = some d) : d.WellFormed :=
  (everywhere_of_ofJson? hfinite h).imp fun _ hd => hd.1

/-- **The defaults of a definition that is read are finite.** -/
theorem finiteDefaults_of_ofJson? {j : Json} {d : Definition} (hfinite : j.Finite)
    (h : ofJson? j = some d) : d.FiniteDefaults :=
  (everywhere_of_ofJson? hfinite h).imp fun _ hd => hd.2

end Definition

end Conform
