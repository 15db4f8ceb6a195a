/-
**Where faults arise.**

The path of a fault is put together from the inside out: whoever finds a fault in a part puts the name
or the index of the part in front.  A definition is *traced* if its faults are left as they arose, with
the location beside them.  The answer follows from the trace, for the path of a fault is what its
location makes of it.

No name has to be clean for that, and so it can be told what a path says of a name that is not.  If the
last step goes to a field with a name, then the path ends in this name.  If the name is empty, then the
step leaves no mark, and the fault cannot be told from one of the enclosing value.

Main definitions:

* `Raised`, `Raised.seen` — a fault where it arose, and the same fault seen from outside;
* `Definition.trace` — what a definition answers, with faults where they arise;
* `Definition.Leads` — the definition of the values to which a location leads;
* `Definition.Declares`, `Definition.NamedFields` — the names that a definition declares;
* `Fault.EndsIn` — the last segment of a path is a name.

Main results:

* `Definition.answer_eq_trace` — **the fault of an answer is one that arose, seen from outside**;
* `Definition.raises_of_trace` — **a fault arises without a path, and at a field that is declared**, unless
  it is about a name that is not;
* `Raised.endsIn_seen`, `Raised.seen_nameless` — **a path ends in the name of the last field, unless this
  name is empty**.
-/

import Conform.Proofs.Definition.Leaf
import Conform.Proofs.Location

set_option relaxedAutoImplicit false
set_option autoImplicit false

namespace Conform

/-! ### Paths -/

namespace Fault

/-- The last segment of the path is the name: nothing stands in front of it, or a point, unless the name
begins like an index. -/
def EndsIn (path name : String) : Prop :=
  ∃ front, path = front ++ name ∧
    (front = "" ∨ name.toList.head? = some '[' ∨ ∃ before, front = before ++ ".")

variable {fault : Fault} {name : String}

/-- Seen from an enclosing value, a path ends in the same name. -/
theorem EndsIn.within (hname : name ≠ "") (h : EndsIn fault.path name) (segment : String) :
    EndsIn (fault.within segment).path name := by
  obtain ⟨front, hpath, hfront⟩ := h
  have hne : fault.path ≠ "" := by
    rw [hpath, ne_eq, String.append_eq_empty_iff]
    exact fun hempty => hname hempty.2
  rw [Fault.within, if_neg hne]
  split
  · next hindex =>
      refine ⟨segment ++ front, by rw [hpath, String.append_assoc], ?_⟩
      rcases hfront with rfl | hbracket | ⟨before, rfl⟩
      · rw [String.empty_append] at hpath
        exact .inr (.inl (hpath ▸ hindex))
      · exact .inr (.inl hbracket)
      · exact .inr (.inr ⟨segment ++ before, (String.append_assoc ..).symm⟩)
  · refine ⟨segment ++ "." ++ front, ?_, ?_⟩
    · show segment ++ "." ++ fault.path = _
      rw [hpath, ← String.append_assoc]
    rcases hfront with rfl | hbracket | ⟨before, rfl⟩
    · exact .inr (.inr ⟨segment, by simp⟩)
    · exact .inr (.inl hbracket)
    · exact .inr (.inr ⟨segment ++ "." ++ before, (String.append_assoc ..).symm⟩)

/-- An empty name leaves a fault without path as it is. -/
theorem within_empty (h : fault.path = "") : fault.within "" = fault := by
  obtain ⟨kind, message, path⟩ := fault
  subst h
  rfl

end Fault

/-- A fault where it arose. -/
structure Raised where
  location : Location
  /-- the fault, seen from there -/
  fault : Fault

namespace Raised

/-- A fault of the value itself. -/
def here (fault : Fault) : Raised := ⟨[], fault⟩

/-- A fault that has the name of a member for its path arose at this member. -/
def atMember (fault : Fault) : Raised := ⟨[.name fault.path], { fault with path := "" }⟩

/-- The fault of a part. -/
def under (segment : Segment) (raised : Raised) : Raised :=
  { raised with location := segment :: raised.location }

/-- The fault seen from outside. -/
def seen (raised : Raised) : Fault :=
  raised.location.foldr (fun segment fault => fault.within segment.text) raised.fault

@[simp] theorem seen_here (fault : Fault) : (here fault).seen = fault := rfl

@[simp] theorem seen_atMember (fault : Fault) : (atMember fault).seen = fault := rfl

@[simp] theorem seen_under (segment : Segment) (raised : Raised) :
    (raised.under segment).seen = raised.seen.within segment.text := rfl

variable {fault : Fault} {name : String}

/-- The path of a fault of a field that has a name ends in the name. -/
theorem endsIn_seen (hfault : fault.path = "") (hname : name ≠ "") (front : Location) :
    Fault.EndsIn (seen ⟨front ++ [.name name], fault⟩).path name := by
  induction front with
  | nil =>
      refine ⟨"", ?_, .inl rfl⟩
      show (fault.within name).path = _
      rw [Fault.within, if_pos hfault, String.empty_append]
  | cons segment front ih => exact ih.within hname segment.text

/-- A fault of a field without name is seen as one of the enclosing value. -/
theorem seen_nameless (hfault : fault.path = "") (front : Location) :
    seen ⟨front ++ [.name ""], fault⟩ = seen ⟨front, fault⟩ := by
  have hlast : fault.within (Segment.name "").text = fault := Fault.within_empty hfault
  rw [seen, seen, List.foldr_append, List.foldr_cons, List.foldr_nil, hlast]

end Raised

/-! ### Traces -/

/-- The answer to an input, where `body` is traced. -/
def Options.trace (options : Options) (body : Value → Except Raised Value) (input : Value) :
    Except Raised Value :=
  if (options.standIn input).isNull then
    if options.nullable then .ok .null else .error (.here Fault.nullValue)
  else body (options.standIn input)

theorem Options.answer_eq_trace (options : Options) {body : Value → Except Raised Value}
    {plain : Value → Except Fault Value} (h : ∀ v, plain v = (body v).mapError Raised.seen)
    (v : Value) : options.answer plain v = (options.trace body v).mapError Raised.seen := by
  rw [answer, trace]
  split
  · split <;> rfl
  · exact h _

namespace Definition

/-- The traces of items, the first of which has the index `index`. -/
def traceItems (trace : Value → Except Raised Value) (index : Nat) :
    List Value → Except Raised (List Value)
  | [] => .ok []
  | item :: rest => do
    let item ← (trace item).mapError (·.under (.index index))
    .ok (item :: (← traceItems trace (index + 1) rest))

mutual

/-- The answer of a definition to a value, with faults where they arise. -/
def trace (now : DateTime) : Definition → Value → Except Raised Value
  | leaf type options => options.trace fun value => (type.answer now value).mapError .here
  | object fields strict options => options.trace fun value => do
    let members ← (Schema.membersOf value).mapError .here
    (expectDeclared strict fields members).mapError .atMember
    Value.object <$> traceFields now fields members
  | array items length _ => arrayOptions.trace fun value => do
    let values ← (ArrayProperty.itemsOf value).mapError .here
    if length.bounds.admits (some values.length) then
      Value.array <$> traceItems (trace now items) 0 values
    else .error (.here (Fault.outOfRange ("array of length " ++ Fault.number values.length)))
  | choice entries options => options.trace fun value =>
    match answerEntries now entries value with
    | some result => .ok result
    | none => .error (.here (Fault.noMatchingChoice value.text))

/-- The traces of fields, given the members of an object. -/
def traceFields (now : DateTime) :
    List (String × Definition) → Members Value → Except Raised (Members Value)
  | [], _ => .ok []
  | (name, d) :: rest, members => do
    let value ← (trace now d ((Members.find? members name).getD .null)).mapError
      (·.under (.name name))
    .ok ((name, value) :: (← traceFields now rest members))

end

variable {now : DateTime} {d : Definition} {v : Value} {raised : Raised}

theorem answerItems_eq_trace {plain : Value → Except Fault Value}
    {traced : Value → Except Raised Value} (h : ∀ v, plain v = (traced v).mapError Raised.seen)
    (values : List Value) : ∀ index, answerItems plain index values =
      (traceItems traced index values).mapError Raised.seen := by
  induction values with
  | nil => exact fun _ => rfl
  | cons value rest ih =>
      intro index
      rw [answerItems, traceItems, h value, ih (index + 1), mapError_bind, mapError_mapError,
        mapError_mapError]
      simp only [mapError_bind, Raised.seen_under]
      rfl

theorem answerFields_eq_trace {fields : List (String × Definition)} (members : Members Value)
    (h : ∀ field ∈ fields, ∀ v, answer now field.2 v = (trace now field.2 v).mapError Raised.seen) :
    answerFields now fields members =
      (traceFields now fields members).mapError Raised.seen := by
  induction fields with
  | nil => rfl
  | cons field rest ih =>
      obtain ⟨hfield, hrest⟩ := List.forall_mem_cons.1 h
      rw [answerFields, traceFields, hfield, ih hrest, mapError_bind, mapError_mapError,
        mapError_mapError]
      simp only [mapError_bind, Raised.seen_under]
      rfl

/-- **The fault of an answer is one that arose, seen from outside.** -/
theorem answer_eq_trace (now : DateTime) (d : Definition) :
    ∀ v, answer now d v = (trace now d v).mapError Raised.seen := by
  induction d with
  | leaf type options =>
      refine options.answer_eq_trace fun v => ?_
      rw [mapError_mapError]
      exact (mapError_id _).symm
  | object fields strict options ih =>
      refine options.answer_eq_trace fun v => ?_
      simp only [mapError_bind, mapError_mapError, mapError_map, Raised.seen_here,
        Raised.seen_atMember, mapError_id]
      simp only [answerFields_eq_trace _ ih]
  | array items length options ih =>
      refine arrayOptions.answer_eq_trace fun v => ?_
      simp only [mapError_bind, mapError_mapError, Raised.seen_here, mapError_id]
      refine bind_congr fun values => ?_
      split
      · rw [mapError_map, ← answerItems_eq_trace ih]
      · rfl
  | choice entries options ih =>
      refine options.answer_eq_trace fun v => ?_
      show _ = Except.mapError Raised.seen (match answerEntries now entries v with
        | some result => .ok result
        | none => .error (.here (Fault.noMatchingChoice v.text)))
      cases answerEntries now entries v <;> rfl

/-! ### Where faults arise -/

theorem kind_of_expectDeclared {strict : Bool} {fields : List (String × Definition)}
    {members : Members Value} {fault : Fault}
    (h : expectDeclared strict fields members = .error fault) : fault.kind = .unexpectedField := by
  rw [expectDeclared] at h
  split at h
  · split at h
    · cases h
      rfl
    · cases h
  · cases h

/-- The location leads from values of the definition to values of the other, which is found in it. -/
inductive Leads : Location → Definition → Definition → Prop
  | here (d : Definition) : Leads [] d d
  | field {l : Location} {e d : Definition} {fields : List (String × Definition)} {name : String}
      {strict : Bool} {options : Options} :
      Leads l d e → (name, d) ∈ fields → Leads (.name name :: l) (object fields strict options) e
  | item {l : Location} {e items : Definition} {length : LengthBounds} {options : Options}
      (index : Nat) : Leads l items e → Leads (.index index :: l) (array items length options) e

theorem Leads.within {l : Location} {e d : Definition} (h : Leads l d e) : Within e d := by
  induction h with
  | here d => exact .here d
  | field _ hmem ih => exact ih.field hmem
  | item _ _ ih => exact ih.item

/-- The location leads to an object that declares the name. -/
def Declares (d : Definition) (l : Location) (name : String) : Prop :=
  ∃ fields strict options, Leads l d (object fields strict options) ∧ name ∈ Members.names fields

/-- The fields of an object have names that are not empty. -/
def NamedFields : Definition → Prop
  | object fields _ _ => ∀ field ∈ fields, field.1 ≠ ""
  | leaf _ _ | array _ _ _ | choice _ _ => True

instance : DecidablePred NamedFields
  | object fields _ _ => inferInstanceAs (Decidable (∀ field ∈ fields, field.1 ≠ ""))
  | leaf _ _ | array _ _ _ | choice _ _ => isTrue trivial

/-- Where all fields have names, no empty name is declared. -/
theorem Declares.ne_empty {l : Location} {name : String} (h : d.Declares l name)
    (hd : d.Everywhere NamedFields) : name ≠ "" := by
  obtain ⟨fields, strict, options, hleads, hname⟩ := h
  obtain ⟨field, hfield, rfl⟩ := List.mem_map.1 hname
  exact (everywhere_object.1 (hd.within hleads.within)).1 field hfield

/-- Where a fault of a definition arises, it has no path; and a last step to a field goes to one that is
declared there, unless the fault is that it is not. -/
structure Raises (d : Definition) (raised : Raised) : Prop where
  pathless : raised.fault.path = ""
  declared : ∀ front name, raised.location = front ++ [.name name] →
    d.Declares front name ∨ raised.fault.kind = .unexpectedField

theorem Raises.here {fault : Fault} (h : fault.path = "") : Raises d (.here fault) :=
  ⟨h, fun front _ hnil => absurd hnil.symm (List.append_ne_nil_of_right_ne_nil front (by simp))⟩

theorem Raises.atMember {fault : Fault} (h : fault.kind = .unexpectedField) :
    Raises d (.atMember fault) :=
  ⟨rfl, fun _ _ _ => .inr h⟩

/-- What a part raises, the whole raises behind one step, if this step goes to an index, or to a field
that is declared. -/
theorem Raises.under {part : Definition} {segment : Segment} (h : Raises part raised)
    (hpart : ∀ front name, part.Declares front name → d.Declares (segment :: front) name)
    (hsegment : ∀ name, segment = .name name → d.Declares [] name) :
    Raises d (raised.under segment) := by
  refine ⟨h.pathless, fun front name hlocation => ?_⟩
  cases front with
  | nil => exact .inl (hsegment name (List.cons.inj hlocation).1)
  | cons first front =>
      obtain ⟨rfl, hrest⟩ := List.cons.inj hlocation
      exact (h.declared front name hrest).imp_left (hpart front name)

theorem failsOnly_trace {p : Raised → Prop} {options : Options}
    {body : Value → Except Raised Value} (hnull : p (.here Fault.nullValue))
    (hbody : ∀ v, FailsOnly p (body v)) : FailsOnly p (options.trace body v) := by
  rw [Options.trace]
  split
  · split
    · exact .ok _
    · exact .error hnull
  · exact hbody _

/-- What the faults of all items are like behind their index, the faults of the list are like. -/
theorem failsOnly_traceItems {p : Raised → Prop} {traced : Value → Except Raised Value}
    (h : ∀ v index, FailsOnly (fun raised => p (raised.under (.index index))) (traced v))
    (values : List Value) : ∀ index, FailsOnly p (traceItems traced index values) := by
  induction values with
  | nil => exact fun _ => .ok []
  | cons value rest ih =>
      exact fun index => .bind (.comp_mapError (h value index)) fun _ =>
        .bind (ih (index + 1)) fun _ => .ok _

/-- What the faults of all fields are like behind their name, the faults of the object are like. -/
theorem failsOnly_traceFields {p : Raised → Prop} {fields : List (String × Definition)}
    (members : Members Value)
    (h : ∀ field ∈ fields, ∀ v,
      FailsOnly (fun raised => p (raised.under (.name field.1))) (trace now field.2 v)) :
    FailsOnly p (traceFields now fields members) := by
  induction fields with
  | nil => exact .ok []
  | cons field rest ih =>
      obtain ⟨hfield, hrest⟩ := List.forall_mem_cons.1 h
      exact .bind (.comp_mapError (hfield _)) fun _ => .bind (ih hrest) fun _ => .ok _

/-- **A fault arises at a field that is declared, or that should be.** -/
theorem raises_of_trace (now : DateTime) (d : Definition) :
    ∀ v, FailsOnly (Raises d) (trace now d v) := by
  induction d with
  | leaf type options =>
      exact fun v => failsOnly_trace (.here rfl) fun v =>
        .comp_mapError fun fault h => .here (type.pathless_answer now v fault h)
  | object fields strict options ih =>
      refine fun v => failsOnly_trace (.here rfl) fun v => ?_
      refine .bind (.comp_mapError fun fault h => .here (pathless_membersOf v fault h)) fun members => ?_
      refine .bind (.comp_mapError fun fault h => .atMember (kind_of_expectDeclared h)) fun _ => ?_
      refine .map _ (failsOnly_traceFields members fun field hfield v raised h => ?_)
      refine (ih field hfield v raised h).under ?_ ?_
      · rintro front name ⟨inner, strict', options', hleads, hname⟩
        exact ⟨inner, strict', options', hleads.field hfield, hname⟩
      · rintro _ ⟨⟩
        exact ⟨fields, strict, options, .here _, List.mem_map_of_mem hfield⟩
  | array items length options ih =>
      refine fun v => failsOnly_trace (.here rfl) fun v => ?_
      refine .bind (.comp_mapError fun fault h => .here (pathless_itemsOf v fault h)) fun values => ?_
      split
      · refine .map _ (failsOnly_traceItems (fun v index raised h => ?_) values 0)
        refine (ih v raised h).under ?_ nofun
        rintro front name ⟨inner, strict', options', hleads, hname⟩
        exact ⟨inner, strict', options', hleads.item index, hname⟩
      · exact .error (.here rfl)
  | choice entries options ih =>
      -- what the entries refuse is not told
      refine fun v => failsOnly_trace (.here rfl) fun v => ?_
      split
      · exact .ok _
      · exact .error (.here rfl)

end Definition

end Conform
