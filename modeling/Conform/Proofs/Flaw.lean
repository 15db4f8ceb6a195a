/-
**The first flaw of a document.**

A document whose definitions are not all sound has no schema, and the fault leads to the first one that
is flawed, by the names of the fields on the way.  Fields come in the order of their names and entries
as they stand.  A definition comes behind those within it, for its default is validated by all of them
together; only an array comes in front of its items, for it may not have a default whatever they are.

Items and entries have no names, so the items of an array have the same path as the array.

Main definitions:

* `Definition.Place`, `Definition.places` — the definitions within a definition, in an order, and the
  names that lead to them;
* `Definition.PlainNames` — no name is empty, or begins like an index;
* `Definition.FirstFlaw` — a fault is about the first flawed place.

Main results:

* `Definition.firstFlaw_of_validator` — a definition without validator is blamed for its first flaw;
* `Document.schema_flaw` — **a document has a schema if no place is flawed, and otherwise the first
  flaw is blamed**;
* `Document.array_before_items` — a flawed array is blamed in front of its items.
-/

import Conform.Proofs.Document

set_option relaxedAutoImplicit false
set_option autoImplicit false

namespace Conform

variable {α β : Type} {start : DateTime} {fault : Fault}

/-! ### Paths of names -/

/-- The name is not empty, and does not begin like an index. -/
def PlainName (name : String) : Prop := name ≠ "" ∧ name.toList.head? ≠ some '['

instance (name : String) : Decidable (PlainName name) := inferInstanceAs (Decidable (_ ∧ _))

/-- A fault behind some names, seen from the enclosing object, is behind one more name. -/
theorem Fault.path_within {names : List String} (hnames : ∀ n ∈ names, PlainName n)
    (h : fault.path = ".".intercalate names) (name : String) :
    (fault.within name).path = ".".intercalate (name :: names) := by
  cases names with
  | nil =>
      rw [String.intercalate_nil] at h
      rw [within, String.intercalate_singleton]
      exact if_pos h
  | cons n rest =>
      obtain ⟨hempty, hbracket⟩ := hnames n (List.mem_cons_self ..)
      obtain ⟨behind, hbehind⟩ : ∃ behind, ".".intercalate (n :: rest) = n ++ behind := by
        cases rest with
        | nil => exact ⟨"", by simp⟩
        | cons n' rest => exact ⟨_, by rw [String.intercalate_cons_cons, String.append_assoc]⟩
      have hhead : fault.path.toList.head? = n.toList.head? := by
        cases hlist : n.toList with
        | nil => exact absurd (String.toList_eq_nil_iff.1 hlist) hempty
        | cons c cs => simp [h, hbehind, hlist]
      have hne : fault.path ≠ "" := by
        rw [h, hbehind, ne_eq, String.append_eq_empty_iff, not_and]
        exact fun hn => absurd hn hempty
      rw [within, String.intercalate_cons_cons, ← h]
      show (if fault.path = "" then name else _) = _
      rw [if_neg hne, if_neg (hhead ▸ hbracket)]

/-! ### Faults of the definition itself -/

/-- The fault blames a definition, and nothing within it. -/
def Fault.IsOwn (fault : Fault) : Prop := ∃ reason, fault = invalidDefinition reason

theorem Fault.isOwn_invalidDefinition (reason : String) : (invalidDefinition reason).IsOwn :=
  ⟨reason, rfl⟩

theorem LeafType.failsOnly_kindsOf (names : List String) : FailsOnly Fault.IsOwn (kindsOf names) := by
  induction names with
  | nil => exact .ok []
  | cons name rest ih =>
      rw [kindsOf]
      split
      · exact ih.map _
      · exact .error (Fault.isOwn_invalidDefinition _)

namespace TimeBound

variable {parse : String → Except Fault α} {shift? : DateTime → Int → Option α}

theorem failsOnly_provider (fallback : α) (bound : TimeBound) :
    FailsOnly Fault.IsOwn ((provider parse shift? fallback bound : Outcome Clocked _).asOf start) := by
  cases bound with
  | literal text => exact (FailsOnly.mapError fun _ => Fault.isOwn_invalidDefinition _).map _
  | relative days =>
      rw [provider, Outcome.asOf_bind, Outcome.asOf_lift, ok_bind]
      split
      · exact .error (Fault.isOwn_invalidDefinition _)
      · exact .ok _

theorem failsOnly_range (first last : α) (min max : Option TimeBound) : FailsOnly Fault.IsOwn
    ((range parse shift? first last min max : Outcome Clocked _).asOf start) := by
  have hside : ∀ (fallback : α) (side : Option TimeBound), FailsOnly Fault.IsOwn
      ((side.mapM (provider parse shift? fallback : _ → Outcome Clocked _)).asOf start) := by
    intro fallback side
    rw [mapM_asOf]
    exact .mapM (failsOnly_provider fallback) side
  simp only [range, Outcome.asOf_bind, Outcome.asOf_pure]
  exact (hside last min).bind fun _ => (hside first max).bind fun _ => .ok _

end TimeBound

theorem LeafType.failsOnly_bare (options : Options) (type : LeafType) :
    FailsOnly Fault.IsOwn ((type.bare options : Outcome Clocked _).asOf start) := by
  cases type with
  | any kinds =>
      simp only [bare, Outcome.asOf_bind, Outcome.asOf_of, Outcome.asOf_pure]
      exact (failsOnly_kindsOf kinds).bind fun _ => .ok _
  | regex pattern length =>
      simp only [bare, Outcome.asOf_bind, Outcome.asOf_of, Outcome.asOf_pure]
      exact (FailsOnly.mapError fun _ => Fault.isOwn_invalidDefinition _).bind fun _ => .ok _
  | date min max | datetime min max =>
      simp only [bare, Outcome.asOf_bind, Outcome.asOf_pure]
      exact (TimeBound.failsOnly_range _ _ min max).bind fun _ => .ok _
  | _ => exact .ok _

theorem Options.failsOnly_checkDefault (options : Options) (validator : Validator Clocked) :
    FailsOnly Fault.IsOwn ((options.checkDefault validator).asOf start) := by
  rw [checkDefault]
  split
  · exact .ok _
  · simp only [Outcome.asOf_bind, Outcome.asOf_discard, Outcome.asOf_mapFault, Outcome.asOf_pure]
    exact ((FailsOnly.mapError fun _ => Fault.isOwn_invalidDefinition _).map _).bind fun _ => .ok _

namespace Definition

/-! ### Places -/

/-- A definition within another one. -/
structure Place where
  /-- the names of the fields that lead to it -/
  names : List String
  definition : Definition

namespace Place

/-- The place seen from an object, in which it is in the field of that name. -/
def under (name : String) (place : Place) : Place := { place with names := name :: place.names }

/-- The names with points between them. -/
def path (place : Place) : String := ".".intercalate place.names

end Place

/-- The definition itself with the places within it: in front of them if it is `early`, and otherwise
behind them. -/
def around (early : Definition → Bool) (d : Definition) (inner : List Place) : List Place :=
  if early d then ⟨[], d⟩ :: inner else inner ++ [⟨[], d⟩]

mutual

/-- The places of a definition. -/
def places (early : Definition → Bool) : Definition → List Place
  | leaf type options => [⟨[], leaf type options⟩]
  | object fields strict options =>
    around early (object fields strict options) (placesOfFields early fields)
  | array items length options => around early (array items length options) (places early items)
  | choice entries options => around early (choice entries options) (placesOfEntries early entries)

/-- The places of fields. -/
def placesOfFields (early : Definition → Bool) : List (String × Definition) → List Place
  | [] => []
  | (name, d) :: rest => (places early d).map (·.under name) ++ placesOfFields early rest

/-- The places of entries. -/
def placesOfEntries (early : Definition → Bool) : List (ChoiceEntry Definition) → List Place
  | [] => []
  | .literal _ :: rest => placesOfEntries early rest
  | .property d :: rest => places early d ++ placesOfEntries early rest

end

/-- The definition is one of arrays. -/
def isArray : Definition → Bool
  | array _ _ _ => true
  | leaf _ _ | object _ _ _ | choice _ _ => false

/-- The declared names are plain. -/
def PlainFields : Definition → Prop
  | object fields _ _ => ∀ field ∈ fields, PlainName field.1
  | leaf _ _ | array _ _ _ | choice _ _ => True

instance : DecidablePred PlainFields
  | object fields _ _ => inferInstanceAs (Decidable (∀ field ∈ fields, PlainName field.1))
  | leaf _ _ | array _ _ _ | choice _ _ => isTrue trivial

/-- All declared names, at every depth, are plain. -/
abbrev PlainNames (d : Definition) : Prop := d.Everywhere PlainFields

variable {early : Definition → Bool} {d : Definition} {p : Definition → Prop}

theorem forall_around {inner : List Place} {q : Place → Prop} :
    (∀ place ∈ around early d inner, q place) ↔ q ⟨[], d⟩ ∧ ∀ place ∈ inner, q place := by
  unfold around
  split <;> simp [or_imp, forall_and, and_comm]

theorem forall_placesOfFields {fields : List (String × Definition)} {q : Place → Prop} :
    (∀ place ∈ placesOfFields early fields, q place) ↔
      ∀ field ∈ fields, ∀ place ∈ places early field.2, q (place.under field.1) := by
  induction fields with
  | nil => simp [placesOfFields]
  | cons field rest ih => simp [placesOfFields, or_imp, forall_and, ih]

theorem forall_placesOfEntries {entries : List (ChoiceEntry Definition)} {q : Place → Prop} :
    (∀ place ∈ placesOfEntries early entries, q place) ↔
      ∀ d, .property d ∈ entries → ∀ place ∈ places early d, q place := by
  induction entries with
  | nil => simp [placesOfEntries]
  | cons entry rest ih =>
      cases entry with
      | literal j => simp [placesOfEntries, ih]
      | property d => simp [placesOfEntries, or_imp, forall_and, ih]

/-- The places of a definition are those where definitions are that it consists of. -/
theorem forall_places : (∀ place ∈ places early d, p place.definition) ↔ d.Everywhere p := by
  induction d with
  | leaf type options => simp [places]
  | object fields strict options ih =>
      rw [places, forall_around, forall_placesOfFields, everywhere_object]
      exact and_congr_right fun _ => forall₂_congr fun field hfield => ih field hfield
  | array items length options ih =>
      rw [places, forall_around, everywhere_array, ih]
  | choice entries options ih =>
      rw [places, forall_around, forall_placesOfEntries, everywhere_choice]
      exact and_congr_right fun _ => forall₂_congr fun d hd => ih d hd

/-- Only declared names lead to places. -/
theorem PlainNames.of_mem_places (h : d.PlainNames) :
    ∀ place ∈ places early d, ∀ name ∈ place.names, PlainName name := by
  induction d with
  | leaf type options => simp [places]
  | object fields strict options ih =>
      obtain ⟨hhere, hfields⟩ := everywhere_object.1 h
      rw [places, forall_around, forall_placesOfFields]
      refine ⟨List.forall_mem_nil _, fun field hfield place hplace => ?_⟩
      exact List.forall_mem_cons.2
        ⟨hhere field hfield, ih field hfield (hfields field hfield) place hplace⟩
  | array items length options ih =>
      rw [places, forall_around]
      exact ⟨List.forall_mem_nil _, ih h.2⟩
  | choice entries options ih =>
      obtain ⟨-, hentries⟩ := everywhere_choice.1 h
      rw [places, forall_around, forall_placesOfEntries]
      exact ⟨List.forall_mem_nil _, fun d hd => ih d hd (hentries d hd)⟩

/-! ### The first flaw -/

/-- The fault blames a definition, by the path of the first place that is not sound. -/
def FirstFlaw (start : DateTime) (places : List Place) (fault : Fault) : Prop :=
  fault.kind = .invalidDefinition ∧ ∃ front place rest, places = front ++ place :: rest ∧
    (∀ earlier ∈ front, earlier.definition.SoundHere start) ∧
      ¬place.definition.SoundHere start ∧ fault.path = place.path

namespace FirstFlaw

variable {l l' : List Place}

theorem append_right (h : FirstFlaw start l fault) (l' : List Place) :
    FirstFlaw start (l ++ l') fault := by
  obtain ⟨hkind, front, place, rest, rfl, hfront, hplace⟩ := h
  exact ⟨hkind, front, place, rest ++ l', by simp, hfront, hplace⟩

theorem append_left (h : FirstFlaw start l' fault)
    (hl : ∀ place ∈ l, place.definition.SoundHere start) : FirstFlaw start (l ++ l') fault := by
  obtain ⟨hkind, front, place, rest, rfl, hfront, hplace⟩ := h
  refine ⟨hkind, l ++ front, place, rest, (List.append_assoc ..).symm, ?_, hplace⟩
  exact List.forall_mem_append.2 ⟨hl, hfront⟩

/-- A fault of the definition itself is at its place. -/
theorem here (hown : fault.IsOwn) (h : ¬d.SoundHere start) :
    FirstFlaw start [⟨[], d⟩] fault := by
  obtain ⟨reason, rfl⟩ := hown
  exact ⟨rfl, [], ⟨[], d⟩, [], rfl, List.forall_mem_nil _, h, (String.intercalate_nil).symm⟩

theorem under (h : FirstFlaw start l fault)
    (hplain : ∀ place ∈ l, ∀ name ∈ place.names, PlainName name) (name : String) :
    FirstFlaw start (l.map (·.under name)) (fault.within name) := by
  obtain ⟨hkind, front, place, rest, rfl, hfront, hplace, hpath⟩ := h
  refine ⟨hkind, front.map (·.under name), place.under name, rest.map (·.under name), by simp, ?_,
    hplace, Fault.path_within (hplain place (by simp)) hpath name⟩
  exact List.forall_mem_map.2 hfront

end FirstFlaw

/-! ### Definitions without validators -/

/-- Nothing is flawed in a definition that has a validator. -/
theorem sound_of_validator (hd : d.WellFormed) {name : String} {f : Validator Clocked}
    (h : (d.validator name).asOf start = .ok f) :
    ∀ place ∈ places early d, place.definition.SoundHere start :=
  forall_places.2 ((validator_eq_ok_iff hd).1 ⟨f, h⟩)

/-- Nothing is flawed in fields that make a schema. -/
theorem sound_of_addFields {fields : List (String × Definition)}
    (hfields : ∀ field ∈ fields, field.2.WellFormed) : ∀ {schema schema' : Schema Clocked},
      (addFields schema fields).asOf start = .ok schema' →
        ∀ place ∈ placesOfFields early fields, place.definition.SoundHere start := by
  induction fields with
  | nil => simp [placesOfFields]
  | cons field rest ih =>
      intro schema schema' h
      obtain ⟨hfield, hrest⟩ := List.forall_mem_cons.1 hfields
      rw [addFields, Outcome.asOf_bind, Outcome.asOf_mapFault] at h
      obtain ⟨f, hf, h⟩ := bind_eq_ok.1 h
      refine List.forall_mem_append.2 ⟨List.forall_mem_map.2 ?_, ih hrest h⟩
      exact sound_of_validator hfield (mapError_eq_ok.1 hf)

/-- Nothing is flawed in entries that make candidates. -/
theorem sound_of_candidatesOf {entries : List (ChoiceEntry Definition)} {name : String}
    (hentries : ∀ d, .property d ∈ entries → d.WellFormed) {candidates : List (Candidate Clocked)}
    (h : (candidatesOf name entries).asOf start = .ok candidates) :
    ∀ place ∈ placesOfEntries early entries, place.definition.SoundHere start := by
  rw [forall_placesOfEntries]
  intro d hd
  obtain ⟨f, hf⟩ := exists_forall₂_candidateOf.1 ⟨candidates, candidatesOf_asOf_iff.1 h⟩ d hd
  exact sound_of_validator (hentries d hd) hf

/-- Fields that make no schema are blamed for the first flaw in them, if each of them is. -/
theorem firstFlaw_of_addFields {fields : List (String × Definition)}
    (hfields : ∀ field ∈ fields, field.2.WellFormed ∧ field.2.PlainNames)
    (hflaw : ∀ field ∈ fields, ∀ fault, (validator field.1 field.2).asOf start = .error fault →
      FirstFlaw start (places early field.2) fault) : ∀ {schema : Schema Clocked},
      (addFields schema fields).asOf start = .error fault →
        FirstFlaw start (placesOfFields early fields) fault := by
  induction fields with
  | nil => rintro schema ⟨⟩
  | cons field rest ih =>
      intro schema h
      obtain ⟨⟨hfield, hplain⟩, hrest⟩ := List.forall_mem_cons.1 hfields
      obtain ⟨hhead, htail⟩ := List.forall_mem_cons.1 hflaw
      rw [addFields, Outcome.asOf_bind, Outcome.asOf_mapFault] at h
      rcases bind_eq_error.1 h with h | ⟨f, hf, h⟩
      · obtain ⟨inner, hinner, rfl⟩ := mapError_eq_error.1 h
        exact ((hhead inner hinner).under hplain.of_mem_places field.1).append_right _
      · refine (ih hrest htail h).append_left (List.forall_mem_map.2 ?_)
        exact sound_of_validator hfield (mapError_eq_ok.1 hf)

/-- Entries that make no candidates are blamed for the first flaw in them, if each of them is. -/
theorem firstFlaw_of_candidatesOf {entries : List (ChoiceEntry Definition)} {name : String}
    (hentries : ∀ d, .property d ∈ entries → d.WellFormed)
    (hflaw : ∀ d, .property d ∈ entries → ∀ fault, (validator name d).asOf start = .error fault →
      FirstFlaw start (places early d) fault)
    (h : (candidatesOf name entries : Outcome Clocked _).asOf start = .error fault) :
    FirstFlaw start (placesOfEntries early entries) fault := by
  induction entries with
  | nil => cases h
  | cons entry rest ih =>
      have hrest := ih (fun d hd => hentries d (List.mem_cons_of_mem _ hd))
        fun d hd => hflaw d (List.mem_cons_of_mem _ hd)
      cases entry with
      | literal j =>
          rw [candidatesOf, Outcome.asOf_bind] at h
          rcases bind_eq_error.1 h with h | ⟨_, _, h⟩
          · exact hrest h
          · cases h
      | property d =>
          rw [candidatesOf, Outcome.asOf_bind] at h
          rcases bind_eq_error.1 h with h | ⟨f, hf, h⟩
          · exact (hflaw d (List.mem_cons_self ..) fault h).append_right _
          · rw [Outcome.asOf_bind] at h
            rcases bind_eq_error.1 h with h | ⟨_, _, h⟩
            · exact (hrest h).append_left
                (sound_of_validator (hentries d (List.mem_cons_self ..)) hf)
            · cases h

/-- If nothing within a definition is flawed, then the definition is what has no validator. -/
theorem firstFlaw_behind (hd : d.WellFormed) {name : String}
    (h : (d.validator name).asOf start = .error fault)
    (hown : fault.IsOwn) {inner : List Place}
    (hplaces : places early d = inner ++ [⟨[], d⟩])
    (hinner : ∀ place ∈ inner, place.definition.SoundHere start) :
    FirstFlaw start (places early d) fault := by
  rw [hplaces]
  refine (FirstFlaw.here hown fun hhere => ?_).append_left hinner
  have hall : ∀ place ∈ places early d, place.definition.SoundHere start := by
    rw [hplaces]
    exact List.forall_mem_append.2 ⟨hinner, List.forall_mem_singleton.2 hhere⟩
  obtain ⟨f, hf⟩ := (validator_eq_ok_iff hd).2 (forall_places.1 hall)
  cases hf.symm.trans h

/-- **A definition without validator is blamed for its first flaw.** -/
theorem firstFlaw_of_validator (hd : d.WellFormed) (hplain : d.PlainNames) :
    ∀ {name : String} {fault : Fault}, (d.validator name).asOf start = .error fault →
      FirstFlaw start (places isArray d) fault := by
  induction d with
  | leaf type options =>
      intro name fault h
      have hown : FailsOnly Fault.IsOwn
          (((leaf type options).validator name : Outcome Clocked _).asOf start) := by
        rw [validator, LeafType.validator, Outcome.asOf_bind]
        exact (type.failsOnly_bare options).bind fun f => options.failsOnly_checkDefault f
      have hplaces : places isArray (leaf type options) = [] ++ [⟨[], leaf type options⟩] := rfl
      exact firstFlaw_behind hd h (hown fault h) hplaces (List.forall_mem_nil _)
  | object fields strict options ih =>
      intro name fault h
      have hsound := (everywhere_object.1 hd).2
      have hnames := (everywhere_object.1 hplain).2
      rcases bind_eq_error.1 ((Outcome.asOf_bind ..).symm.trans h) with
        hfields | ⟨schema, hschema, hdefault⟩
      · refine (firstFlaw_of_addFields (fun field hmem => ⟨hsound field hmem, hnames field hmem⟩)
          (fun field hmem fault => ?_) hfields).append_right _
        exact ih field hmem (hsound field hmem) (hnames field hmem)
      · exact firstFlaw_behind hd h (options.failsOnly_checkDefault _ fault hdefault) rfl
          (sound_of_addFields hsound hschema)
  | array items length options ih =>
      intro name fault h
      -- the array stands in front of its items, as its default is looked at before they are
      have hplaces : places isArray (array items length options) =
          [⟨[], array items length options⟩] ++ places isArray items := rfl
      rw [validator] at h
      rw [hplaces]
      cases hdefault : options.default with
      | some j =>
          rw [hdefault] at h
          obtain rfl := Except.error.inj h
          refine (FirstFlaw.here ⟨_, rfl⟩ fun hnone => ?_).append_right _
          rw [SoundHere, hdefault] at hnone
          cases hnone
      | none =>
          rw [hdefault] at h
          rcases bind_eq_error.1 ((Outcome.asOf_bind ..).symm.trans h) with hitems | ⟨_, _, h⟩
          · exact (ih hd.2 hplain.2 hitems).append_left (List.forall_mem_singleton.2 hdefault)
          · cases h
  | choice entries options ih =>
      intro name fault h
      have hsound := (everywhere_choice.1 hd).2
      have hnames := (everywhere_choice.1 hplain).2
      rcases bind_eq_error.1 ((Outcome.asOf_bind ..).symm.trans h) with
        hentries | ⟨candidates, hcandidates, hdefault⟩
      · refine (firstFlaw_of_candidatesOf hsound (fun d hmem fault => ?_) hentries).append_right _
        exact ih d hmem (hsound d hmem) (hnames d hmem)
      · exact firstFlaw_behind hd h (options.failsOnly_checkDefault _ fault hdefault) rfl
          (sound_of_candidatesOf hsound hcandidates)

end Definition

/-! ### Documents -/

namespace Document

open Definition

/-- The places of the fields of a document. -/
def places (early : Definition → Bool) (document : Document) : List Place :=
  placesOfFields early document.fields

/-- **A document has a schema exactly if no place of it is flawed; otherwise the first flaw is
blamed**, where arrays come in front of their items and all other definitions behind those within
them. -/
theorem schema_flaw {document : Document} (hd : document.root.WellFormed)
    (hplain : document.root.PlainNames) :
    ((∃ schema, (document.schema : Outcome Clocked (Schema Clocked)).asOf start = .ok schema) ↔
      ∀ place ∈ document.places isArray, place.definition.SoundHere start) ∧
    ∀ fault, (document.schema : Outcome Clocked (Schema Clocked)).asOf start = .error fault →
      FirstFlaw start (document.places isArray) fault := by
  have hsound := (everywhere_object.1 hd).2
  have hnames := (everywhere_object.1 hplain).2
  refine ⟨?_, fun fault h => ?_⟩
  · have hroot : document.root.Sound start ↔
        ∀ place ∈ document.places isArray, place.definition.SoundHere start := by
      rw [Sound, root, everywhere_object, places, forall_placesOfFields]
      refine (and_iff_right fun hne => absurd rfl hne).trans ?_
      exact forall₂_congr fun field _ => forall_places.symm
    exact (exists_schema_iff hd).trans hroot
  · refine firstFlaw_of_addFields (fun field hmem => ⟨hsound field hmem, hnames field hmem⟩) ?_ h
    exact fun field hmem fault => firstFlaw_of_validator (hsound field hmem) (hnames field hmem)

/-- A document with an array of objects, each with a text of a pattern that is none. -/
def catalogue (options : Options) : Document :=
  ⟨"catalogue", "1", none, false, [("articles",
    .array (.object [("number", .leaf (.regex "(" ⟨none, none⟩) .standard)] false .standard)
      ⟨none, none⟩ options)]⟩

theorem schema_flaw_catalogue : ∃ fault,
    ((catalogue .standard).schema : Outcome Clocked (Schema Clocked)).asOf .epoch = .error fault ∧
      FirstFlaw .epoch ((catalogue .standard).places isArray) fault ∧
      fault.path = "articles.number" := by
  have h : ∃ fault, ((catalogue .standard).schema : Outcome Clocked (Schema Clocked)).asOf .epoch =
      .error fault ∧ fault.path = "articles.number" := ⟨_, rfl, rfl⟩
  obtain ⟨fault, h, hpath⟩ := h
  exact ⟨fault, h, (schema_flaw (by decide) (by decide)).2 fault h, hpath⟩

/-- **An array that has a default is blamed in front of its items**, not behind them. -/
theorem array_before_items : let document := catalogue ⟨true, some (.arr [])⟩
    document.root.WellFormed ∧ document.root.PlainNames ∧
      ∃ fault, (document.schema : Outcome Clocked (Schema Clocked)).asOf .epoch = .error fault ∧
        fault.path = "articles" ∧ ¬FirstFlaw .epoch (document.places fun _ => false) fault := by
  intro document
  refine ⟨by decide, by decide, _, rfl, rfl, ?_⟩
  rintro ⟨-, front, place, rest, hplaces, hfront, -, hpath⟩
  cases front with
  | nil =>
      obtain ⟨rfl, -⟩ := List.cons_eq_cons.1 hplaces
      exact absurd hpath (by decide)
  | cons first front =>
      obtain ⟨rfl, -⟩ := List.cons_eq_cons.1 hplaces
      obtain ⟨⟨format, hformat⟩, -⟩ := hfront _ (List.mem_cons_self ..)
      cases hformat

end Document

end Conform
