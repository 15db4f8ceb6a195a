/-
**Results written as documents.**

The document of a result is accepted by the definition that the result comes from, and its result has
the same document.  A plain result is the value of its document, so that this is a second validation
of the same value.  A date is written as the text that stands for it.  Only an instant is not read as
it was, as its text stops at microseconds: it comes back a little earlier.  No upper bound is missed
by that; a lower bound is not either, if it has whole microseconds itself.

Bounds that move with the current time are left out here, as time passes between the two validations.

Main definitions:

* `LeafType.Steady` — fixed bounds, and lower bounds of instants in whole microseconds;
* `Definition.Steady` — every leaf is steady.

Main results:

* `Definition.answer_eq_of_steady` — answers of steady definitions do not depend on the time;
* `LeafType.answer_toJson` — a leaf accepts the document of what it answers;
* `Definition.answer_toJson` — **a definition accepts the documents of its results**, and its results
  have the same documents.
-/

import Conform.Proofs.Calendar.Instant
import Conform.Proofs.Definition.Projection
import Conform.Proofs.Definition.Reader
import Conform.Proofs.Value.Plain

set_option relaxedAutoImplicit false
set_option autoImplicit false

namespace Conform

variable {now later : DateTime}

/-! ### Steady definitions -/

/-- Does the bound stay where it is? -/
def TimeBound.isFixed : TimeBound → Bool
  | literal _ => true
  | relative _ => false

/-- The bound, if there is one, is fixed. -/
def TimeBound.Fixed (bound : Option TimeBound) : Prop := ∀ b, bound = some b → b.isFixed = true

/-- The bound, if it is the text of an instant, has whole microseconds. -/
def TimeBound.WholeMicros (bound : Option TimeBound) : Prop :=
  ∀ text a, bound = some (.literal text) → DateTime.parse text = .ok a → a.nanos % 1000 = 0

/-- Bounds of dates and instants are fixed, and lower bounds of instants have whole microseconds. -/
def LeafType.Steady : LeafType → Prop
  | date min max => TimeBound.Fixed min ∧ TimeBound.Fixed max
  | datetime min max => TimeBound.Fixed min ∧ TimeBound.Fixed max ∧ TimeBound.WholeMicros min
  | any _ | int _ _ | float _ _ | number _ _ | bool | string _ | regex _ _ | email _ | uuid _ => True

namespace Definition

/-- A leaf has to be steady. -/
def SteadyHere : Definition → Prop
  | leaf type _ => type.Steady
  | object _ _ _ | array _ _ _ | choice _ _ => True

/-- Every leaf is steady. -/
abbrev Steady (d : Definition) : Prop := d.Everywhere SteadyHere

end Definition

/-! ### Answers at other times -/

/-- Fixed bounds are the same at any time. -/
theorem TimeBound.bounds_eq_of_fixed {α : Type} {parse : String → Except Fault α}
    {shift? : DateTime → Int → Option α} {first last : α} {min max : Option TimeBound}
    (hmin : Fixed min) (hmax : Fixed max) :
    bounds parse shift? first last now min max = bounds parse shift? first last later min max := by
  have hside : ∀ {fallback : α} {side : Option TimeBound}, Fixed side →
      side.mapM (resolve parse shift? fallback now) =
        side.mapM (resolve parse shift? fallback later) := by
    intro fallback side hside
    cases side with
    | none => rfl
    | some bound =>
        cases bound with
        | literal text => rfl
        | relative days => cases hside _ rfl
  rw [bounds, bounds, hside hmin, hside hmax]

theorem LeafType.answer_eq_of_steady {type : LeafType} (h : type.Steady) (v : Value) :
    type.answer now v = type.answer later v := by
  cases type with
  | date min max => rw [answer, answer, TimeBound.bounds_eq_of_fixed h.1 h.2]
  | datetime min max => rw [answer, answer, TimeBound.bounds_eq_of_fixed h.1 h.2.1]
  | _ => rfl

namespace Definition

/-- Fields whose definitions answer alike at two times answer alike together. -/
theorem answerFields_congr {fields : List (String × Definition)}
    (h : ∀ field ∈ fields, answer now field.2 = answer later field.2) (members : Members Value) :
    answerFields now fields members = answerFields later fields members := by
  induction fields with
  | nil => rfl
  | cons field rest ih =>
      obtain ⟨hfield, hrest⟩ := List.forall_mem_cons.1 h
      rw [answerFields, answerFields, hfield, ih hrest]

/-- Entries whose definitions answer alike at two times answer alike together. -/
theorem answerEntries_congr {entries : List (ChoiceEntry Definition)}
    (h : ∀ d, .property d ∈ entries → answer now d = answer later d) (v : Value) :
    answerEntries now entries v = answerEntries later entries v := by
  induction entries with
  | nil => rfl
  | cons entry rest ih =>
      have hrest := ih fun d hd => h d (List.mem_cons_of_mem _ hd)
      cases entry with
      | literal j => rw [answerEntries, answerEntries, hrest]
      | property d =>
          have hd : answer now d = answer later d := h d (List.mem_cons_self ..)
          rw [answerEntries, answerEntries, hrest, hd]

/-- The answers of a steady definition do not depend on the time. -/
theorem answer_eq_of_steady {d : Definition} (h : d.Steady) : answer now d = answer later d := by
  induction d with
  | leaf type options =>
      funext v
      have hbody : type.answer now = type.answer later :=
        funext (LeafType.answer_eq_of_steady h)
      rw [answer, answer, hbody]
  | object fields strict options ih =>
      have hfields : ∀ field ∈ fields, answer now field.2 = answer later field.2 :=
        fun field hmem => ih field hmem ((everywhere_object.1 h).2 field hmem)
      funext v
      simp only [answer, answerFields_congr hfields]
  | array items length options ih =>
      funext v
      rw [answer, answer, ih h.2]
  | choice entries options ih =>
      have hentries : ∀ d, .property d ∈ entries → answer now d = answer later d :=
        fun d hmem => ih d hmem ((everywhere_choice.1 h).2 d hmem)
      funext v
      simp only [answer, answerEntries_congr hentries]

end Definition

/-! ### Dates and instants of plain values -/

/-- The instant of a timestamp can be written. -/
theorem Value.writable_of_toInstant {v : Value} {t : DateTime} (h : v.toInstant = .ok t) :
    t.Writable := by
  rw [toInstant] at h
  split at h
  · next t' hinstant =>
      cases h
      cases v with
      | int n => exact DateTime.writable_of_seconds hinstant
      | float x =>
          obtain ⟨micros, -, hmicros⟩ := Option.bind_eq_some_iff.1 hinstant
          exact DateTime.writable_of_microseconds hmicros
      | _ => cases hinstant
  · cases h

namespace ScalarKind

variable {v : Value} {d : Date} {t : DateTime}

/-- The date of a plain value is supported. -/
theorem supported_of_toDate (hv : v.Plain) (h : toDate v = .ok (.date d)) : d.Supported := by
  cases v with
  | date d' | datetime t => exact hv.elim
  | string s =>
      obtain ⟨d', hparse, hd⟩ := map_eq_ok.1 h
      cases hd
      exact Date.supported_of_read (mapError_eq_ok.1 hparse)
  | int n | float x =>
      obtain ⟨t, hinstant, hd⟩ := map_eq_ok.1 h
      cases hd
      exact t.localDate_supported
  | _ => cases h

/-- The instant of a plain value can be written. -/
theorem writable_of_toDateTime (hv : v.Plain) (h : toDateTime v = .ok (.datetime t)) :
    t.Writable := by
  cases v with
  | date d | datetime t' => exact hv.elim
  | string s =>
      obtain ⟨t', hparse, ht⟩ := map_eq_ok.1 h
      cases ht
      exact DateTime.writable_of_read (mapError_eq_ok.1 hparse)
  | int n | float x =>
      obtain ⟨t', hinstant, ht⟩ := map_eq_ok.1 h
      cases ht
      exact Value.writable_of_toInstant hinstant
  | _ => cases h

theorem toDate_text (h : d.Supported) : toDate (.string d.text) = .ok (.date d) := by
  have hparse : Date.parse d.text = .ok d := mapError_eq_ok.2 (Date.read_text h)
  exact map_eq_ok.2 ⟨d, hparse, rfl⟩

theorem toDateTime_text (h : t.Writable) :
    toDateTime (.string t.text) = .ok (.datetime t.truncated) := by
  have hparse : DateTime.parse t.text = .ok t.truncated := mapError_eq_ok.2 (DateTime.read_text h)
  exact map_eq_ok.2 ⟨t.truncated, hparse, rfl⟩

end ScalarKind

namespace DateTime

/-- An instant that is cut does not get later. -/
theorem truncated_notAfter {t b : DateTime} (h : t.NotAfter b) : t.truncated.NotAfter b := by
  have hcut : t.truncated.nanos ≤ t.nanos := Nat.div_mul_le_self _ _
  rcases h with hlt | ⟨heq, hle⟩
  · exact .inl hlt
  · exact .inr ⟨heq, Nat.le_trans hcut hle⟩

/-- An instant that is cut is not cut below an instant in whole microseconds. -/
theorem notAfter_truncated {a t : DateTime} (hwhole : a.nanos % 1000 = 0) (h : a.NotAfter t) :
    a.NotAfter t.truncated := by
  rcases h with hlt | ⟨heq, hle⟩
  · exact .inl hlt
  · refine .inr ⟨heq, ?_⟩
    show a.nanos ≤ t.nanos / 1000 * 1000
    omega

/-- A lower bound has whole microseconds, if it is fixed and the text of an instant that has them. -/
theorem whole_of_bounds {min max : Option TimeBound} {bounds : Bounds DateTime} {a : DateTime}
    (hfixed : TimeBound.Fixed min) (hwhole : TimeBound.WholeMicros min)
    (hbounds : TimeBound.bounds parse addDays? first last now min max = .ok bounds)
    (ha : bounds.min = some a) : a.nanos % 1000 = 0 := by
  obtain ⟨lower, hlower, hrest⟩ := bind_eq_ok.1 hbounds
  obtain ⟨upper, -, hrest⟩ := bind_eq_ok.1 hrest
  cases hrest
  cases min with
  | none =>
      cases hlower
      cases ha
  | some bound =>
      obtain ⟨a', hresolve, hsome⟩ := map_eq_ok.1 hlower
      obtain rfl : a' = a := Option.some.inj (hsome.trans ha)
      cases bound with
      | literal text => exact hwhole text a' rfl (mapError_eq_ok.1 hresolve)
      | relative days => cases hfixed _ rfl

/-- Bounds that admit an instant admit it also when it is cut. -/
theorem admits_truncated {min max : Option TimeBound} {bounds : Bounds DateTime} {t : DateTime}
    (hfixed : TimeBound.Fixed min) (hwhole : TimeBound.WholeMicros min)
    (hbounds : TimeBound.bounds parse addDays? first last now min max = .ok bounds)
    (h : bounds.admits (some t) = true) : bounds.admits (some t.truncated) = true := by
  obtain ⟨hmin, hmax⟩ := Bounds.admits_some.1 h
  refine Bounds.admits_some.2 ⟨fun a ha => ?_, fun b hb => ?_⟩
  · -- only here could the cut go too far
    have hmicros := whole_of_bounds hfixed hwhole hbounds ha
    rw [Range.atLeast_datetime]
    exact notAfter_truncated hmicros (Range.atLeast_datetime.1 (hmin a ha))
  · rw [Range.atMost_datetime]
    exact truncated_notAfter (Range.atMost_datetime.1 (hmax b hb))

end DateTime

/-! ### Leaves -/

/-- A steady leaf accepts the document of what it answers to a plain value, and its result has the same
document. -/
theorem LeafType.answer_toJson {type : LeafType} (hsteady : type.Steady) {v w : Value}
    (hv : v.Plain) (hne : v ≠ .null) (h : type.answer now v = .ok w) :
    Value.ofJson w.toJson ≠ .null ∧
      ∃ w', type.answer now (Value.ofJson w.toJson) = .ok w' ∧ w'.toJson = w.toJson := by
  -- a plain result is the value of its document, and is kept
  have hplain : w.Plain → Value.ofJson w.toJson ≠ .null ∧
      ∃ w', type.answer now (Value.ofJson w.toJson) = .ok w' ∧ w'.toJson = w.toJson := by
    intro hw
    rw [Value.ofJson_toJson hw]
    exact ⟨ne_null_of_answer hne h, w, answer_of_answer h, rfl⟩
  cases type with
  | any kinds =>
      obtain ⟨known, -, -, rfl⟩ := any_eq_ok.1 h
      exact hplain hv
  | int min max =>
      obtain ⟨n, -, rfl, -⟩ := ScalarKind.int_eq_ok.1 h
      exact hplain trivial
  | float min max | number min max =>
      obtain ⟨rfl, -⟩ := ScalarKind.float_eq_ok.1 h
      exact hplain hv
  | bool =>
      obtain ⟨b, -, rfl⟩ := ScalarKind.bool_eq_ok.1 h
      exact hplain trivial
  | string length | email length | uuid stripHyphens =>
      obtain ⟨s, -, -, -, rfl⟩ := ScalarKind.text_eq_ok.1 h
      exact hplain trivial
  | regex pattern length =>
      obtain ⟨format, -, htext⟩ := bind_eq_ok.1 h
      obtain ⟨s, -, -, -, rfl⟩ := ScalarKind.text_eq_ok.1 htext
      exact hplain trivial
  | date min max =>
      obtain ⟨bounds, hbounds, hdate⟩ := bind_eq_ok.1 h
      obtain ⟨d, hd, rfl, hadmits⟩ := ScalarKind.date_eq_ok.1 hdate
      have hread := ScalarKind.toDate_text (ScalarKind.supported_of_toDate hv hd)
      refine ⟨nofun, .date d, bind_eq_ok.2 ⟨bounds, hbounds, ?_⟩, rfl⟩
      exact ScalarKind.date_eq_ok.2 ⟨d, hread, rfl, hadmits⟩
  | datetime min max =>
      obtain ⟨hmin, -, hwhole⟩ := hsteady
      obtain ⟨bounds, hbounds, hdatetime⟩ := bind_eq_ok.1 h
      obtain ⟨t, ht, rfl, hadmits⟩ := ScalarKind.datetime_eq_ok.1 hdatetime
      have hread := ScalarKind.toDateTime_text (ScalarKind.writable_of_toDateTime hv ht)
      have hcut := DateTime.admits_truncated hmin hwhole hbounds hadmits
      refine ⟨nofun, .datetime t.truncated, bind_eq_ok.2 ⟨bounds, hbounds, ?_⟩, ?_⟩
      · exact ScalarKind.datetime_eq_ok.2 ⟨t.truncated, hread, rfl, hcut⟩
      · exact congrArg Json.str t.text_truncated

/-! ### Options -/

/-- What stands in for a plain value is plain, if the default is finite. -/
theorem Options.plain_standIn {options : Options} (hdefault : options.FiniteDefault) {v : Value}
    (hv : v.Plain) : (options.standIn v).Plain := by
  cases v with
  | null =>
      cases hd : options.default with
      | none =>
          rw [standIn, hd]
          trivial
      | some j =>
          rw [standIn, hd]
          exact Value.plain_ofJson (hdefault j hd)
  | _ => exact hv

/-! ### Definitions -/

namespace Definition

/-- Fields that each answer what has the document of a given member answer together what has the
documents of all. -/
theorem exists_answerFields {fields : List (String × Definition)} {inputs outputs : Members Value}
    (h : List.Forall₂ (fun field output => output.1 = field.1 ∧
      ∃ w, answer now field.2 ((Members.find? inputs field.1).getD .null) = .ok w ∧
        w.toJson = output.2.toJson) fields outputs) :
    ∃ results, answerFields now fields inputs = .ok results ∧
      Value.toJsonMembers results = Value.toJsonMembers outputs := by
  induction h with
  | nil => exact ⟨[], rfl, rfl⟩
  | @cons field output rest others hhead _ ih =>
      obtain ⟨name, d⟩ := field
      obtain ⟨k, v⟩ := output
      obtain ⟨rfl, w, hanswer, hjson⟩ := hhead
      obtain ⟨results, hresults, hjsons⟩ := ih
      refine ⟨(k, w) :: results, ?_, ?_⟩
      · rw [answerFields, hanswer, hresults]
        rfl
      · rw [Value.toJsonMembers, Value.toJsonMembers, hjson, hjsons]

/-- Fields that accept the documents of the members of a sorted object accept those of all. -/
theorem answerFields_toJson {fields : List (String × Definition)} {outputs : Members Value}
    (hsorted : Members.Sorted outputs)
    (h : List.Forall₂ (fun field output => output ∈ outputs ∧ output.1 = field.1 ∧
      ∃ w, answer now field.2 (Value.ofJson output.2.toJson) = .ok w ∧
        w.toJson = output.2.toJson) fields outputs) :
    ∃ results, answerFields now fields
        (Members.mapEntries (fun v => Value.ofJson v.toJson) outputs) = .ok results ∧
      Value.toJsonMembers results = Value.toJsonMembers outputs := by
  have hback : Members.Sorted (Members.mapEntries (fun v => Value.ofJson v.toJson) outputs) :=
    (Members.sorted_congr (Members.names_mapEntries _ outputs)).2 hsorted
  refine exists_answerFields (h.imp fun field output hfield => ?_)
  obtain ⟨hmem, hname, hanswer⟩ := hfield
  have hin : (field.1, Value.ofJson output.2.toJson) ∈
      Members.mapEntries (fun v => Value.ofJson v.toJson) outputs := by
    rw [← hname]
    exact List.mem_map_of_mem hmem
  refine ⟨hname, ?_⟩
  rw [hback.find?_eq_some_iff.2 hin]
  exact hanswer

/-- Items that are each answered by what has the document of a given value are answered together by
what has the documents of all. -/
theorem exists_answerItems {answer : Value → Except Fault Value} {outputs : List Value}
    (h : ∀ output ∈ outputs, ∃ w, answer (Value.ofJson output.toJson) = .ok w ∧
      w.toJson = output.toJson) :
    ∃ results, List.Forall₂ (fun item value => answer item = .ok value)
        (Value.ofJsonItems (Value.toJsonItems outputs)) results ∧
      Value.toJsonItems results = Value.toJsonItems outputs := by
  induction outputs with
  | nil => exact ⟨[], .nil, rfl⟩
  | cons output rest ih =>
      obtain ⟨hhead, hrest⟩ := List.forall_mem_cons.1 h
      obtain ⟨w, hanswer, hjson⟩ := hhead
      obtain ⟨results, hresults, hjsons⟩ := ih hrest
      refine ⟨w :: results, .cons hanswer hresults, ?_⟩
      rw [Value.toJsonItems, Value.toJsonItems, hjson, hjsons]

/-- A steady definition accepts the documents of its results at the same time. -/
theorem exists_answer_toJson {d : Definition} (hd : d.WellFormed) (hliteral : d.LiteralChoices)
    (hsteady : d.Steady) (hfinite : d.FiniteDefaults) :
    ∀ {v w : Value}, v.Plain → answer now d v = .ok w →
      ∃ w', answer now d (Value.ofJson w.toJson) = .ok w' ∧ w'.toJson = w.toJson := by
  induction d with
  | leaf type options =>
      intro v w hv h
      rcases Options.answer_eq_ok.1 h with ⟨hnull, -, rfl⟩ | ⟨hne, hresult⟩
      · obtain ⟨rfl, -⟩ := Options.standIn_eq_null.1 hnull
        exact ⟨.null, h, rfl⟩
      · have hplain := Options.plain_standIn hfinite hv
        obtain ⟨hne', w', hanswer, hjson⟩ := LeafType.answer_toJson hsteady hplain hne hresult
        refine ⟨w', ?_, hjson⟩
        rw [answer, Options.answer_of_ne_null hne']
        exact hanswer
  | object fields strict options ih =>
      intro v w hv h
      rcases object_eq_ok.1 h with ⟨hnull, -, rfl⟩ | ⟨inputs, outputs, hinput, -, hout, rfl⟩
      · obtain ⟨rfl, -⟩ := Options.standIn_eq_null.1 hnull
        exact ⟨.null, h, rfl⟩
      · obtain ⟨hdefault, hdefaults⟩ := everywhere_object.1 hfinite
        have hplain : (options.standIn v).Plain := Options.plain_standIn hdefault hv
        rw [hinput] at hplain
        have hnames := names_of_answerFields hout
        have hsorted : Members.Sorted outputs := (Members.sorted_congr hnames).2 hd.1
        have hall : List.Forall₂ (fun field output => output ∈ outputs ∧ output.1 = field.1 ∧
            ∃ w, answer now field.2 (Value.ofJson output.2.toJson) = .ok w ∧
              w.toJson = output.2.toJson) fields outputs := by
          refine (forall₂_of_answerFields hout).imp fun field output hfield => ?_
          obtain ⟨hfield, houtput, hname, hanswer⟩ := hfield
          refine ⟨houtput, hname, ?_⟩
          exact ih field hfield ((everywhere_object.1 hd).2 field hfield)
            ((everywhere_object.1 hliteral).2 field hfield)
            ((everywhere_object.1 hsteady).2 field hfield) (hdefaults field hfield)
            (hplain.find? trivial field.1) hanswer
        obtain ⟨results, hresults, hjson⟩ := answerFields_toJson hsorted hall
        refine ⟨.object results, ?_, congrArg Json.obj hjson⟩
        rw [Value.ofJson_toJson_object hsorted]
        refine object_eq_ok.2 (.inr ⟨_, results, rfl, ?_, hresults, rfl⟩)
        intro _ name hname
        rwa [Members.names_mapEntries, hnames] at hname
  | array items length options ih =>
      intro v w hv h
      obtain ⟨inputs, outputs, hinput, hadmits, hout, rfl⟩ := array_eq_ok.1 h
      have hplain : (arrayOptions.standIn v).Plain := by
        cases v with
        | null => trivial
        | _ => exact hv
      rw [hinput] at hplain
      have hall : ∀ output ∈ outputs, ∃ w', answer now items (Value.ofJson output.toJson) = .ok w' ∧
          w'.toJson = output.toJson := by
        intro output houtput
        obtain ⟨i, hi, rfl⟩ := List.mem_iff_getElem.1 houtput
        have hi' : i < inputs.length := by rwa [hout.length_eq]
        exact ih hd.2 hliteral.2 hsteady.2 hfinite.2 (hplain.item (List.getElem_mem hi'))
          (hout.get hi' hi)
      obtain ⟨results, hresults, hjson⟩ := exists_answerItems hall
      refine ⟨.array results, ?_, congrArg Json.arr hjson⟩
      refine array_eq_ok.2 ⟨_, results, rfl, ?_, hresults, rfl⟩
      rwa [Value.ofJsonItems_eq_map, Value.toJsonItems_eq_map, List.length_map, List.length_map,
        ← hout.length_eq]
  | choice entries options ih =>
      intro v w hv h
      -- the result is what stands in for the input, so it is plain
      have hw : w.Plain := by
        rcases choice_eq_ok.1 h with ⟨-, -, rfl⟩ | ⟨-, hentry⟩
        · trivial
        · rw [answerEntries_of_literals hliteral.1 hentry]
          exact Options.plain_standIn hfinite.1 hv
      refine ⟨w, ?_, rfl⟩
      rw [Value.ofJson_toJson hw]
      exact answer_of_answer hd hliteral h

/-- **A steady definition accepts the documents of its results**, at any time, and its results have the
same documents. -/
theorem answer_toJson {d : Definition} (hd : d.WellFormed) (hliteral : d.LiteralChoices)
    (hsteady : d.Steady) (hfinite : d.FiniteDefaults) {v w : Value} (hv : v.Plain)
    (h : answer now d v = .ok w) :
    ∃ w', answer later d (Value.ofJson w.toJson) = .ok w' ∧ w'.toJson = w.toJson := by
  rw [answer_eq_of_steady hsteady] at h
  exact exists_answer_toJson hd hliteral hsteady hfinite hv h

end Definition

end Conform
