/-
**Definitions are read as they are written.**

The document of a definition has at most one member of each name, and for each option the member that
the reader looks for.  So a definition is read out of its document, if writing loses nothing of it: a
float bound that is no number would become null, a default of null would be none, and fields, defaults
and literals are sorted when they are read.

All this holds of a definition that was read itself.  Its document is nested no deeper than the one it
was read of.

Main definitions:

* `Definition.Faithful` — the document of the definition determines it.

Main results:

* `Definition.ofJson?_toJson` — **a faithful definition is read as it is written**;
* `Definition.faithful_of_ofJson?` — **what is read is faithful**, and its document is as legible as
  what was read.
-/

import Conform.Proofs.Binary64.Nearest
import Conform.Proofs.Definition.Reader

set_option relaxedAutoImplicit false
set_option autoImplicit false

namespace Conform

/-! ### Looking up members -/

namespace Members

variable {α : Type}

theorem names_append (ms ns : Members α) : names (ms ++ ns) = names ms ++ names ns :=
  List.map_append

theorem find?_append (ms ns : Members α) (name : String) :
    find? (ms ++ ns) name = (find? ms name).or (find? ns name) := by
  induction ms with
  | nil => rfl
  | cons e rest ih =>
      rw [List.cons_append, find?_cons, find?_cons, ih]
      split <;> rfl

end Members

namespace Json

variable {α : Type} {read : Json → Option α} {write : α → Json} {members : List (String × Json)}
  {name : String} {j : Json} {o : Option α}

/-- Where no name is repeated, the reader finds the member of a name. -/
theorem unique?_eq_find? (h : (Members.names members).Nodup) (name : String) :
    unique? members name = some (Members.find? members name) := by
  induction members with
  | nil => rfl
  | cons member rest ih =>
      obtain ⟨hnot, hrest⟩ := List.nodup_cons.1 h
      by_cases hname : member.1 = name
      · have hnone : rest.filter (fun member => member.1 = name) = [] := by
          refine List.filter_eq_nil_iff.2 fun other hother heq => hnot ?_
          have hsame : other.1 = member.1 := (of_decide_eq_true heq).trans hname.symm
          exact List.mem_map.2 ⟨other, hother, hsame⟩
        simp [unique?, hname, hnone, Members.find?]
      · have hskip : unique? (member :: rest) name = unique? rest name := by
          rw [unique?, List.filter_cons_of_neg (by simpa using hname), unique?]
        rw [hskip, ih hrest, Members.find?_cons, if_neg hname]

theorem required?_eq (h : (Members.names members).Nodup)
    (hfind : Members.find? members name = some j) : required? read members name = read j := by
  rw [required?, unique?_eq_find? h, hfind]
  rfl

theorem optional?_eq (h : (Members.names members).Nodup)
    (hfind : Members.find? members name = o.map write)
    (hread : ∀ a, o = some a → write a ≠ .null ∧ read (write a) = some a) :
    optional? read members name = some o := by
  rw [optional?, unique?_eq_find? h, hfind]
  cases o with
  | none => rfl
  | some a =>
      -- the value is not null, which would stand for none
      obtain ⟨hnotNull, ha⟩ := hread a rfl
      simp only [Option.map_some, Option.bind_eq_bind, Option.bind_some]
      rw [ha]
      rfl

theorem withDefault?_eq {fallback : α} (h : (Members.names members).Nodup)
    (hfind : Members.find? members name = some j) :
    withDefault? read fallback members name = read j := by
  rw [withDefault?, unique?_eq_find? h, hfind]
  rfl

theorem withDefault?_eq_fallback {fallback : α} (h : (Members.names members).Nodup)
    (hfind : Members.find? members name = none) :
    withDefault? read fallback members name = some fallback := by
  rw [withDefault?, unique?_eq_find? h, hfind]
  rfl

theorem find?_optional (key : String) (write : α → Json) (o : Option α) (name : String) :
    Members.find? (optional key write o) name = if key = name then o.map write else none := by
  cases o with
  | none => simp [optional]
  | some a => rfl

theorem names_optional_sublist (key : String) (write : α → Json) (o : Option α) :
    (Members.names (optional key write o)).Sublist [key] := by
  cases o with
  | none => exact List.nil_sublist _
  | some a => exact List.Sublist.refl _

theorem legible_optional {depth : ℕ} (h : ∀ a, o = some a → (write a).Legible depth) :
    ∀ member ∈ optional name write o, member.2.Legible depth := by
  intro member hmember
  cases o with
  | none => cases hmember
  | some a =>
      obtain rfl := List.mem_singleton.1 hmember
      exact h a rfl

/-! ### Depth -/

theorem depth_le_depthItems {items : List Json} (h : j ∈ items) : j.depth ≤ depthItems items := by
  induction items with
  | nil => cases h
  | cons item rest ih =>
      rw [depthItems]
      rcases List.mem_cons.1 h with rfl | h
      · exact Nat.le_max_left ..
      · exact Nat.le_trans (ih h) (Nat.le_max_right ..)

theorem depth_le_depthMembers {member : String × Json} (h : member ∈ members) :
    member.2.depth ≤ depthMembers members := by
  induction members with
  | nil => cases h
  | cons other rest ih =>
      rw [depthMembers]
      rcases List.mem_cons.1 h with rfl | h
      · exact Nat.le_max_left ..
      · exact Nat.le_trans (ih h) (Nat.le_max_right ..)

/-- The items of an array are less deep than the array. -/
theorem le_of_depth_arr {items : List Json} {depth : ℕ} (h : (arr items).depth ≤ depth) :
    ∃ below, depth = below + 1 ∧ ∀ j ∈ items, j.depth ≤ below := by
  rw [Json.depth] at h
  refine ⟨depth - 1, by omega, fun j hj => ?_⟩
  have hle := depth_le_depthItems hj
  omega

/-- The members of an object are less deep than the object. -/
theorem le_of_depth_obj {depth : ℕ} (h : (obj members).depth ≤ depth) :
    ∃ below, depth = below + 1 ∧ ∀ member ∈ members, member.2.depth ≤ below := by
  rw [Json.depth] at h
  refine ⟨depth - 1, by omega, fun member hmember => ?_⟩
  have hle := depth_le_depthMembers hmember
  omega

/-! ### Numbers -/

theorem isNumber_ofUInt64 (n : UInt64) : (ofUInt64 n).IsNumber := by
  unfold ofUInt64
  split
  · trivial
  · next h => exact Nat.le_of_not_lt h

theorem asUInt64?_ofUInt64 (n : UInt64) : asUInt64? (ofUInt64 n) = some n := by
  unfold ofUInt64
  split
  · next h =>
      have hnonneg : 0 ≤ n.toInt64.toInt := by
        have hbits : n.toInt64.toInt = n.toBitVec.toInt := rfl
        rw [hbits, BitVec.toInt_eq_toNat_of_lt (by rw [UInt64.toNat_toBitVec]; omega)]
        exact Int.natCast_nonneg _
      simp [asUInt64?, hnonneg]
  · rfl

theorem ofUInt64_ne_null (n : UInt64) : ofUInt64 n ≠ .null := by
  unfold ofUInt64
  split <;> simp

theorem asFloat?_ofFloat {x : Binary64} (hx : x.IsFinite) :
    ofFloat x ≠ .null ∧ asFloat? (ofFloat x) = some x := by
  rw [ofFloat, if_pos hx]
  exact ⟨by simp, rfl⟩

/-- A float that is read of a legible document is finite. -/
theorem isFinite_of_asFloat? {depth : ℕ} {x : Binary64} (hj : j.Legible depth)
    (h : j.asFloat? = some x) : x.IsFinite := by
  cases j with
  | int n =>
      cases h
      refine Binary64.isFinite_ofInt ?_
      have hlow := n.le_toInt
      have hhigh := n.toInt_lt
      omega
  | big n =>
      cases h
      refine Binary64.isFinite_ofInt ?_
      rw [Int.natAbs_natCast]
      exact n.toNat_lt
  | float y =>
      cases h
      exact hj
  | _ => cases h

end Json

/-! ### Options -/

/-- The default, if there is one, is sorted and not null. -/
def Options.Faithful (options : Options) : Prop :=
  ∀ j, options.default = some j → j.canonical = j ∧ j ≠ .null

/-- Bounds that are floats are numbers. -/
def LeafType.Faithful : LeafType → Prop
  | .float min max | .number min max => ∀ x, min = some x ∨ max = some x → x.IsFinite
  | .any _ | .int _ _ | .bool | .string _ | .regex _ _ | .email _ | .uuid _ | .date _ _
  | .datetime _ _ => True

namespace Definition

/-- The members of a definition's document. -/
def recordMembers (type : TypeName) (members : List (String × Json)) (options : Options) :
    List (String × Json) :=
  ("type", .str type.text) :: (members ++ options.members)

theorem record_eq (type : TypeName) (members : List (String × Json)) (options : Options) :
    record type members options = .obj (recordMembers type members options) := rfl

/-- The names of the members that a type may have, in the order in which they are written. -/
def ownNames : List String :=
  ["kinds", "pattern", "strip_hyphens", "fields", "strict", "items", "choices", "min_length",
    "max_length", "min", "max"]

section Record

variable {type : TypeName} {members : List (String × Json)} {options : Options}

/-- No name is repeated in a definition's document. -/
theorem nodup_recordMembers (h : (Members.names members).Sublist ownNames) :
    (Members.names (recordMembers type members options)).Nodup := by
  have hall : ("type" :: (ownNames ++ ["nullable", "default"])).Nodup := by decide
  have hoptions : (Members.names options.members).Sublist ["nullable", "default"] :=
    (Json.names_optional_sublist "default" id options.default).cons_cons "nullable"
  have hnames : Members.names (recordMembers type members options) =
      "type" :: (Members.names members ++ Members.names options.members) :=
    congrArg _ (Members.names_append ..)
  rw [hnames]
  exact ((h.append hoptions).cons_cons "type").nodup hall

/-- Among the members of a type its own are found. -/
theorem find?_recordMembers (name : String) (hname : name ∈ ownNames) :
    Members.find? (recordMembers type members options) name = Members.find? members name := by
  have hne : "type" ≠ name ∧ "nullable" ≠ name ∧ "default" ≠ name := by
    revert name
    decide
  rw [recordMembers, Members.find?_cons, if_neg hne.1, Members.find?_append, Options.members,
    Members.find?_cons, if_neg hne.2.1, Json.find?_optional, if_neg hne.2.2, Option.or_none]

theorem mem_recordMembers {member : String × Json} (h : member ∈ members) :
    member ∈ recordMembers type members options :=
  List.mem_cons_of_mem _ (List.mem_append_left _ h)

/-- The options are found behind the members of a type. -/
theorem find?_recordMembers_options (h : (Members.names members).Sublist ownNames) {name : String}
    (hname : name ∈ ["nullable", "default"]) :
    Members.find? (recordMembers type members options) name =
      Members.find? options.members name := by
  have hne : "type" ≠ name ∧ name ∉ ownNames := by
    revert name
    decide
  have hnone : Members.find? members name = none :=
    Members.find?_eq_none_iff.2 fun hmem => hne.2 (h.subset hmem)
  rw [recordMembers, Members.find?_cons, if_neg hne.1, Members.find?_append, hnone, Option.none_or]

theorem ofMembers?_options (h : (Members.names members).Sublist ownNames)
    (hoptions : options.Faithful) :
    Options.ofMembers? (recordMembers type members options) = some options := by
  have hnodup : (Members.names (recordMembers type members options)).Nodup := nodup_recordMembers h
  have hnullable : Json.withDefault? Json.asBool? true (recordMembers type members options)
      "nullable" = some options.nullable :=
    Json.withDefault?_eq (j := .bool options.nullable) hnodup
      (find?_recordMembers_options h (.head _))
  have hdefault : Json.optional? some (recordMembers type members options) "default" =
      some options.default := by
    have hfind : Members.find? (recordMembers type members options) "default" =
        options.default.map id := by
      rw [find?_recordMembers_options h (.tail _ (.head _)), Options.members, Members.find?_cons,
        if_neg (by decide), Json.find?_optional, if_pos rfl]
    exact Json.optional?_eq hnodup hfind fun j hj => ⟨(hoptions j hj).2, rfl⟩
  have hsorted : options.default.map Json.canonical = options.default := by
    cases hcase : options.default with
    | none => rfl
    | some j => exact congrArg some (hoptions j hcase).1
  rw [Options.ofMembers?, hnullable, hdefault]
  simp only [Option.bind_eq_bind, Option.bind_some, hsorted]

theorem ofMembers?_type (h : (Members.names members).Sublist ownNames) :
    Json.required? TypeName.ofJson? (recordMembers type members options) "type" = some type := by
  rw [Json.required?_eq (nodup_recordMembers h) rfl]
  cases type <;> rfl

end Record

end Definition

/-! ### Types without parts -/

theorem boundsOfMembers?_eq {α : Type} {read : Json → Option α} {write : α → Json}
    {min max : Option α} {members : List (String × Json)} (h : (Members.names members).Nodup)
    (hmin : Members.find? members "min" = min.map write)
    (hmax : Members.find? members "max" = max.map write)
    (hread : ∀ a, min = some a ∨ max = some a → write a ≠ .null ∧ read (write a) = some a) :
    boundsOfMembers? read members = some (min, max) := by
  rw [boundsOfMembers?, Json.optional?_eq h hmin fun a ha => hread a (.inl ha),
    Json.optional?_eq h hmax fun a ha => hread a (.inr ha)]
  rfl

namespace LengthBounds

/-- The members of length bounds carry these names at most. -/
theorem names_members_sublist (length : LengthBounds) :
    (Members.names length.members).Sublist ["min_length", "max_length"] := by
  rw [members, Members.names_append]
  exact (Json.names_optional_sublist ..).append (Json.names_optional_sublist ..)

theorem find?_min (length : LengthBounds) :
    Members.find? length.members "min_length" = length.min.map Json.ofUInt64 := by
  simp [members, Members.find?_append, Json.find?_optional]

theorem find?_max (length : LengthBounds) :
    Members.find? length.members "max_length" = length.max.map Json.ofUInt64 := by
  simp [members, Members.find?_append, Json.find?_optional]

/-- Length bounds are read where they are found. -/
theorem ofMembers?_eq {length : LengthBounds} {written : List (String × Json)}
    (h : (Members.names written).Nodup)
    (hmin : Members.find? written "min_length" = length.min.map Json.ofUInt64)
    (hmax : Members.find? written "max_length" = length.max.map Json.ofUInt64) :
    ofMembers? written = some length := by
  have hread : ∀ n, Json.ofUInt64 n ≠ .null ∧ Json.asUInt64? (Json.ofUInt64 n) = some n :=
    fun n => ⟨Json.ofUInt64_ne_null n, Json.asUInt64?_ofUInt64 n⟩
  rw [ofMembers?, Json.optional?_eq h hmin fun n _ => hread n,
    Json.optional?_eq h hmax fun n _ => hread n]
  rfl

end LengthBounds

theorem TimeBound.ofJson?_toJson (bound : TimeBound) : ofJson? bound.toJson = some bound := by
  cases bound <;> rfl

theorem TimeBound.toJson_ne_null (bound : TimeBound) : bound.toJson ≠ .null := by
  cases bound <;> simp [toJson]

theorem textsOfJson?_texts (texts : List String) :
    textsOfJson? (.arr (texts.map .str)) = some texts := by
  have hmap : (texts.map Json.str).mapM Json.asString? = some texts := by
    induction texts with
    | nil => rfl
    | cons text rest ih => simp [List.mapM_cons, Json.asString?, ih]
  exact hmap

namespace LeafType

/-- The members of a type are among those that a type may have. -/
theorem names_members_sublist (type : LeafType) :
    (Members.names type.members).Sublist Definition.ownNames := by
  have hbounds : ∀ {α : Type} (write : α → Json) (min max : Option α),
      (Members.names (boundMembers write min max)).Sublist ["min", "max"] := by
    intro α write min max
    rw [boundMembers, Members.names_append]
    exact (Json.names_optional_sublist ..).append (Json.names_optional_sublist ..)
  cases type with
  | any kinds =>
      have hkinds : (Members.names (any kinds).members).Sublist ["kinds"] := by
        rw [members]
        split
        · exact List.nil_sublist _
        · exact List.Sublist.refl _
      exact hkinds.trans (by decide)
  | int min max | float min max | number min max | date min max | datetime min max =>
      exact (hbounds _ min max).trans (by decide)
  | bool => exact List.nil_sublist _
  | uuid stripHyphens =>
      have huuid : ["strip_hyphens"].Sublist Definition.ownNames := by decide
      exact huuid
  | string length | email length => exact length.names_members_sublist.trans (by decide)
  | regex pattern length =>
      exact (length.names_members_sublist.cons_cons "pattern").trans (by decide)

variable {options : Options}

/-- A type without parts is read as it is written. -/
theorem ofMembers?_recordMembers {type : LeafType} (h : type.Faithful) :
    ofMembers? (Definition.recordMembers type.typeName type.members options) type.typeName =
      some type := by
  have hnodup : (Members.names (Definition.recordMembers type.typeName type.members options)).Nodup :=
    Definition.nodup_recordMembers type.names_members_sublist
  have hfind : ∀ name ∈ Definition.ownNames,
      Members.find? (Definition.recordMembers type.typeName type.members options) name =
        Members.find? type.members name := Definition.find?_recordMembers
  generalize Definition.recordMembers type.typeName type.members options = written at hnodup hfind ⊢
  -- what is found of bounds is what was written of them
  have hbounds : ∀ {α : Type} {read : Json → Option α} {write : α → Json} {min max : Option α},
      type.members = boundMembers write min max →
      (∀ a, min = some a ∨ max = some a → write a ≠ .null ∧ read (write a) = some a) →
        boundsOfMembers? read written = some (min, max) := by
    intro α read write min max htype hread
    have hmin := hfind "min" (by decide)
    have hmax := hfind "max" (by decide)
    refine boundsOfMembers?_eq hnodup ?_ ?_ hread
    · simp [hmin, htype, boundMembers, Members.find?_append,
        Json.find?_optional]
    · simp [hmax, htype, boundMembers, Members.find?_append,
        Json.find?_optional]
  have hlength : ∀ (front : List (String × Json)) {length : LengthBounds},
      type.members = front ++ length.members → "min_length" ∉ Members.names front →
        "max_length" ∉ Members.names front → LengthBounds.ofMembers? written = some length := by
    intro front length htype hmin hmax
    rw [← Members.find?_eq_none_iff] at hmin hmax
    refine LengthBounds.ofMembers?_eq hnodup ?_ ?_
    · rw [hfind "min_length" (by decide), htype, Members.find?_append, hmin, Option.none_or]
      exact length.find?_min
    · rw [hfind "max_length" (by decide), htype, Members.find?_append, hmax, Option.none_or]
      exact length.find?_max
  cases type with
  | any kinds =>
      have hkinds := hfind "kinds" (by decide)
      by_cases hempty : kinds.isEmpty = true
      · have hnone : Members.find? written "kinds" = none := by
          rw [hkinds, members, if_pos hempty]
          rfl
        rw [typeName, ofMembers?, Json.withDefault?_eq_fallback hnodup hnone,
          List.isEmpty_iff.1 hempty]
        rfl
      · have hsome : Members.find? written "kinds" = some (.arr (kinds.map .str)) := by
          rw [hkinds, members, if_neg hempty]
          rfl
        rw [typeName, ofMembers?, Json.withDefault?_eq hnodup hsome, textsOfJson?_texts]
        rfl
  | int min max =>
      rw [typeName, ofMembers?, hbounds rfl fun n _ => ⟨by simp, rfl⟩]
      rfl
  | float min max =>
      rw [typeName, ofMembers?, hbounds rfl fun x hx => Json.asFloat?_ofFloat (h x hx)]
      rfl
  | number min max =>
      rw [typeName, ofMembers?, hbounds rfl fun x hx => Json.asFloat?_ofFloat (h x hx)]
      rfl
  | bool => rfl
  | string length =>
      rw [typeName, ofMembers?, hlength [] rfl List.not_mem_nil List.not_mem_nil]
      rfl
  | regex pattern length =>
      have hpattern : Json.required? Json.asString? written "pattern" = some pattern :=
        Json.required?_eq hnodup (hfind "pattern" (by decide))
      have hother : ∀ {name}, name ≠ "pattern" →
          name ∉ Members.names [("pattern", Json.str pattern)] :=
        fun hne hmem => hne (List.mem_singleton.1 hmem)
      rw [typeName, ofMembers?, hpattern,
        hlength [("pattern", .str pattern)] rfl (hother (by decide)) (hother (by decide))]
      rfl
  | email length =>
      rw [typeName, ofMembers?, hlength [] rfl List.not_mem_nil List.not_mem_nil]
      rfl
  | uuid stripHyphens =>
      have hstrip : Json.withDefault? Json.asBool? false written "strip_hyphens" =
          some stripHyphens := Json.withDefault?_eq hnodup (hfind "strip_hyphens" (by decide))
      rw [typeName, ofMembers?, hstrip]
      rfl
  | date min max =>
      rw [typeName, ofMembers?,
        hbounds rfl fun bound _ => ⟨bound.toJson_ne_null, bound.ofJson?_toJson⟩]
      rfl
  | datetime min max =>
      rw [typeName, ofMembers?,
        hbounds rfl fun bound _ => ⟨bound.toJson_ne_null, bound.ofJson?_toJson⟩]
      rfl

end LeafType

/-! ### Definitions -/

theorem mapM_map_eq_some {α β : Type} {f : β → Option α} {g : α → β} {as : List α}
    (h : ∀ a ∈ as, f (g a) = some a) : (as.map g).mapM f = some as := by
  induction as with
  | nil => rfl
  | cons a rest ih =>
      obtain ⟨ha, hrest⟩ := List.forall_mem_cons.1 h
      rw [List.map_cons, List.mapM_cons, ha, ih hrest]
      rfl

namespace Definition

theorem toJsonFields_eq_map (fields : List (String × Definition)) :
    toJsonFields fields = fields.map fun field => (field.1, field.2.toJson) := by
  induction fields with
  | nil => rfl
  | cons field rest ih => rw [toJsonFields, ih, List.map_cons]

/-- The document of an entry of a choice. -/
def entryToJson : ChoiceEntry Definition → Json
  | .literal j => .obj [("literal", j)]
  | .property d => .obj [("property", d.toJson)]

theorem toJsonEntries_eq_map (entries : List (ChoiceEntry Definition)) :
    toJsonEntries entries = entries.map entryToJson := by
  induction entries with
  | nil => rfl
  | cons entry rest ih => cases entry <;> rw [toJsonEntries, ih] <;> rfl

/-- Nothing of the definition itself is lost when it is written. -/
def FaithfulHere : Definition → Prop
  | leaf type options => type.Faithful ∧ options.Faithful
  | object fields _ options => Members.Sorted fields ∧ options.Faithful
  | array _ _ options => options.Faithful
  | choice entries options => (∀ j, .literal j ∈ entries → j.canonical = j) ∧ options.Faithful

/-- Nothing of the definition, nor of those within it, is lost when it is written. -/
abbrev Faithful (d : Definition) : Prop := d.Everywhere FaithfulHere

variable {inner : Json → Option Definition}

theorem fieldsOf?_toJson {fields : List (String × Definition)} (hsorted : Members.Sorted fields)
    (hinner : ∀ field ∈ fields, inner field.2.toJson = some field.2) :
    ofMembers?.fieldsOf? inner (.obj (toJsonFields fields)) = some fields := by
  rw [ofMembers?.fieldsOf?, Json.asObject?, toJsonFields_eq_map]
  simp only [Option.bind_eq_bind, Option.bind_some]
  rw [mapM_map_eq_some, Option.bind_some, Members.ofList_eq_self hsorted]
  intro field hfield
  simp only [hinner field hfield, Option.map_eq_map, Option.map_some]

theorem entriesOf?_toJson {entries : List (ChoiceEntry Definition)}
    (hliteral : ∀ j, .literal j ∈ entries → j.canonical = j)
    (hinner : ∀ d, .property d ∈ entries → inner d.toJson = some d) :
    ofMembers?.entriesOf? inner (.arr (toJsonEntries entries)) = some entries := by
  rw [toJsonEntries_eq_map]
  refine mapM_map_eq_some fun entry hentry => ?_
  cases entry with
  | literal j => exact congrArg (fun j => some (ChoiceEntry.literal j)) (hliteral j hentry)
  | property d => simp only [entryToJson, hinner d hentry, Option.map_eq_map, Option.map_some]

section Own

variable {options : Options}

/-- An object is read as it is written, if its fields are. -/
theorem ofMembers?_object {fields : List (String × Definition)} {strict : Bool}
    (hoptions : options.Faithful) (hsorted : Members.Sorted fields)
    (hinner : ∀ field ∈ fields, inner field.2.toJson = some field.2) :
    ofMembers? inner (recordMembers .object
      [("fields", .obj (toJsonFields fields)), ("strict", .bool strict)] options) =
        some (object fields strict options) := by
  have hnames : ["fields", "strict"].Sublist ownNames := by decide
  have hown : (Members.names [("fields", Json.obj (toJsonFields fields)),
      ("strict", .bool strict)]).Sublist ownNames := hnames
  have hfields : Json.required? (ofMembers?.fieldsOf? inner) (recordMembers .object
      [("fields", .obj (toJsonFields fields)), ("strict", .bool strict)] options) "fields" =
        some fields := by
    rw [Json.required?_eq (nodup_recordMembers hown) (find?_recordMembers "fields" (by decide))]
    exact fieldsOf?_toJson hsorted hinner
  have hstrict : Json.withDefault? Json.asBool? false (recordMembers .object
      [("fields", .obj (toJsonFields fields)), ("strict", .bool strict)] options) "strict" =
        some strict :=
    Json.withDefault?_eq (nodup_recordMembers hown) (find?_recordMembers "strict" (by decide))
  rw [ofMembers?, ofMembers?_options hown hoptions, ofMembers?_type hown]
  simp only [Option.bind_eq_bind, Option.bind_some, hfields, hstrict]

/-- An array is read as it is written, if its items are. -/
theorem ofMembers?_array {items : Definition} {length : LengthBounds} (hoptions : options.Faithful)
    (hinner : inner items.toJson = some items) :
    ofMembers? inner (recordMembers .array (("items", items.toJson) :: length.members) options) =
      some (array items length options) := by
  have hown : (Members.names (("items", items.toJson) :: length.members)).Sublist ownNames :=
    (length.names_members_sublist.cons_cons "items").trans (by decide)
  have hitems : Json.required? inner (recordMembers .array
      (("items", items.toJson) :: length.members) options) "items" = some items := by
    rw [Json.required?_eq (nodup_recordMembers hown) (find?_recordMembers "items" (by decide))]
    exact hinner
  have hlength : LengthBounds.ofMembers? (recordMembers .array
      (("items", items.toJson) :: length.members) options) = some length := by
    refine LengthBounds.ofMembers?_eq (nodup_recordMembers hown) ?_ ?_
    · rw [find?_recordMembers "min_length" (by decide), Members.find?_cons, if_neg (by decide)]
      exact length.find?_min
    · rw [find?_recordMembers "max_length" (by decide), Members.find?_cons, if_neg (by decide)]
      exact length.find?_max
  rw [ofMembers?, ofMembers?_options hown hoptions, ofMembers?_type hown]
  simp only [Option.bind_eq_bind, Option.bind_some, hitems, hlength]

/-- A choice is read as it is written, if the definitions among its entries are. -/
theorem ofMembers?_choice {entries : List (ChoiceEntry Definition)} (hoptions : options.Faithful)
    (hliteral : ∀ j, .literal j ∈ entries → j.canonical = j)
    (hinner : ∀ d, .property d ∈ entries → inner d.toJson = some d) :
    ofMembers? inner (recordMembers .choice
      [("choices", .arr (toJsonEntries entries))] options) = some (choice entries options) := by
  have hnames : ["choices"].Sublist ownNames := by decide
  have hown : (Members.names [("choices", Json.arr (toJsonEntries entries))]).Sublist ownNames :=
    hnames
  have hentries : Json.required? (ofMembers?.entriesOf? inner) (recordMembers .choice
      [("choices", .arr (toJsonEntries entries))] options) "choices" = some entries := by
    rw [Json.required?_eq (nodup_recordMembers hown) (find?_recordMembers "choices" (by decide))]
    exact entriesOf?_toJson hliteral hinner
  rw [ofMembers?, ofMembers?_options hown hoptions, ofMembers?_type hown]
  simp only [Option.bind_eq_bind, Option.bind_some, hentries]

/-- A leaf is read as it is written. -/
theorem ofMembers?_leaf {type : LeafType} (htype : type.Faithful) (hoptions : options.Faithful) :
    ofMembers? inner (recordMembers type.typeName type.members options) =
      some (leaf type options) := by
  have hread : LeafType.ofMembers? (recordMembers type.typeName type.members options)
      type.typeName = some type := type.ofMembers?_recordMembers htype
  rw [ofMembers?, ofMembers?_options type.names_members_sublist hoptions,
    ofMembers?_type type.names_members_sublist]
  simp only [Option.bind_eq_bind, Option.bind_some]
  split
  · next h => cases type <;> cases h
  · next h => cases type <;> cases h
  · next h => cases type <;> cases h
  · rw [hread]
    rfl

end Own

/-- A faithful definition is read as it is written, down to any depth that its document has. -/
theorem ofJsonWithin?_toJson {d : Definition} (h : d.Faithful) :
    ∀ {depth : ℕ}, d.toJson.depth ≤ depth → ofJsonWithin? depth d.toJson = some d := by
  induction d with
  | leaf type options =>
      intro depth hdepth
      rw [toJson, record_eq] at hdepth ⊢
      obtain ⟨below, rfl, -⟩ := Json.le_of_depth_obj hdepth
      exact ofMembers?_leaf h.1 h.2
  | object fields strict options ih =>
      intro depth hdepth
      obtain ⟨⟨hsorted, hoptions⟩, hfields⟩ := everywhere_object.1 h
      rw [toJson, record_eq] at hdepth ⊢
      obtain ⟨below, rfl, hparts⟩ := Json.le_of_depth_obj hdepth
      obtain ⟨deeper, rfl, hdeeper⟩ := Json.le_of_depth_obj
        (hparts ("fields", .obj (toJsonFields fields)) (mem_recordMembers (List.mem_cons_self ..)))
      refine ofMembers?_object hoptions hsorted fun field hfield => ?_
      refine ih field hfield (hfields field hfield) (Nat.le_succ_of_le ?_)
      rw [toJsonFields_eq_map] at hdeeper
      exact hdeeper (field.1, field.2.toJson) (List.mem_map_of_mem hfield)
  | array items length options ih =>
      intro depth hdepth
      rw [toJson, record_eq] at hdepth ⊢
      obtain ⟨below, rfl, hparts⟩ := Json.le_of_depth_obj hdepth
      refine ofMembers?_array h.1 (ih h.2 ?_)
      exact hparts ("items", items.toJson) (mem_recordMembers (List.mem_cons_self ..))
  | choice entries options ih =>
      intro depth hdepth
      obtain ⟨⟨hliteral, hoptions⟩, hentries⟩ := everywhere_choice.1 h
      rw [toJson, record_eq] at hdepth ⊢
      obtain ⟨below, rfl, hparts⟩ := Json.le_of_depth_obj hdepth
      obtain ⟨deeper, rfl, hdeeper⟩ := Json.le_of_depth_arr
        (hparts ("choices", .arr (toJsonEntries entries)) (mem_recordMembers (List.mem_cons_self ..)))
      refine ofMembers?_choice hoptions hliteral fun d hd => ih d hd (hentries d hd) ?_
      rw [toJsonEntries_eq_map] at hdeeper
      obtain ⟨least, rfl, hleast⟩ :=
        Json.le_of_depth_obj (hdeeper (.obj [("property", d.toJson)]) (List.mem_map_of_mem hd))
      have hle : d.toJson.depth ≤ least :=
        hleast ("property", d.toJson) (List.mem_singleton_self _)
      omega

/-- **A faithful definition is read as it is written.** -/
theorem ofJson?_toJson {d : Definition} (h : d.Faithful) : ofJson? d.toJson = some d :=
  ofJsonWithin?_toJson h (Nat.le_refl _)

end Definition

/-! ### What is read is faithful -/

section Read

variable {members : List (String × Json)} {depth : ℕ}

/-- Options that are read are faithful, and legible if the members are. -/
theorem Options.faithful_of_ofMembers? {options : Options}
    (hlegible : ∀ member ∈ members, member.2.Legible depth)
    (h : ofMembers? members = some options) :
    options.Faithful ∧ ∀ member ∈ options.members, member.2.Legible depth := by
  obtain ⟨nullable, -, h⟩ := Option.bind_eq_some_iff.1 h
  obtain ⟨default, hdefault, h⟩ := Option.bind_eq_some_iff.1 h
  cases h
  have hread : ∀ j, default.map Json.canonical = some j →
      ∃ written : Json, written.Legible depth ∧ written ≠ .null ∧ j = written.canonical := by
    intro j hj
    obtain ⟨written, rfl, rfl⟩ := Option.map_eq_some_iff.1 hj
    obtain ⟨found, hmem, hnotNull, hfound⟩ := Json.optional?_eq_some hdefault
    cases hfound
    exact ⟨written, hlegible _ hmem, hnotNull, rfl⟩
  refine ⟨fun j hj => ?_, ?_⟩
  · obtain ⟨written, -, hnotNull, rfl⟩ := hread j hj
    exact ⟨Json.canonical_canonical written, Json.canonical_ne_null hnotNull⟩
  · rw [Options.members, List.forall_mem_cons]
    refine ⟨trivial, Json.legible_optional fun j hj => ?_⟩
    obtain ⟨written, hwritten, -, rfl⟩ := hread j hj
    exact hwritten.canonical

theorem TimeBound.legible_of_ofJson? {j : Json} {bound : TimeBound} (hj : j.Legible depth)
    (h : ofJson? j = some bound) : bound.toJson.Legible depth := by
  cases j with
  | obj written =>
      obtain ⟨days, -, rfl⟩ := Option.map_eq_some_iff.1 h
      obtain ⟨below, rfl, -⟩ := Json.legible_obj.1 hj
      exact Json.legible_obj.2 ⟨below, rfl, List.forall_mem_singleton.2 trivial⟩
  | str s =>
      cases h
      trivial
  | _ => cases h

theorem LengthBounds.legible_members (length : LengthBounds) (depth : ℕ) :
    ∀ member ∈ length.members, member.2.Legible depth := by
  intro member hmember
  have hnumber : ∀ n, (Json.ofUInt64 n).Legible depth := fun n =>
    Json.legible_of_isNumber depth (Json.isNumber_ofUInt64 n)
  rcases List.mem_append.1 hmember with hmember | hmember
  · exact Json.legible_optional (fun n _ => hnumber n) member hmember
  · exact Json.legible_optional (fun n _ => hnumber n) member hmember

/-- Bounds that are read are read of members. -/
theorem boundsOfMembers?_eq_some {α : Type} {read : Json → Option α} {min max : Option α}
    (h : boundsOfMembers? read members = some (min, max)) {a : α} (ha : min = some a ∨ max = some a) :
    ∃ j name, (name, j) ∈ members ∧ read j = some a := by
  obtain ⟨low, hlow, h⟩ := Option.bind_eq_some_iff.1 h
  obtain ⟨high, hhigh, h⟩ := Option.bind_eq_some_iff.1 h
  cases h
  rcases ha with rfl | rfl
  · obtain ⟨j, hmem, -, hread⟩ := Json.optional?_eq_some hlow
    exact ⟨j, "min", hmem, hread⟩
  · obtain ⟨j, hmem, -, hread⟩ := Json.optional?_eq_some hhigh
    exact ⟨j, "max", hmem, hread⟩

theorem legible_boundMembers {α : Type} {write : α → Json} {min max : Option α}
    (h : ∀ a, min = some a ∨ max = some a → (write a).Legible depth) :
    ∀ member ∈ boundMembers write min max, member.2.Legible depth := by
  intro member hmember
  rcases List.mem_append.1 hmember with hmember | hmember
  · exact Json.legible_optional (fun a ha => h a (.inl ha)) member hmember
  · exact Json.legible_optional (fun a ha => h a (.inr ha)) member hmember

/-- A type without parts that is read is the one that was named, faithful, and legible if the members
are. -/
theorem LeafType.faithful_of_ofMembers? {name : TypeName} {type : LeafType}
    (hlegible : ∀ member ∈ members, member.2.Legible depth)
    (h : ofMembers? members name = some type) :
    type.Faithful ∧ ∀ member ∈ type.members, member.2.Legible depth := by
  have hfloat : ∀ {min max : Option Binary64},
      boundsOfMembers? Json.asFloat? members = some (min, max) →
        ∀ x, min = some x ∨ max = some x → x.IsFinite := by
    intro min max hbounds x hx
    obtain ⟨j, name, hmem, hread⟩ := boundsOfMembers?_eq_some hbounds hx
    exact Json.isFinite_of_asFloat? (hlegible _ hmem) hread
  have htime : ∀ {min max : Option TimeBound},
      boundsOfMembers? TimeBound.ofJson? members = some (min, max) →
        ∀ member ∈ boundMembers TimeBound.toJson min max, member.2.Legible depth := by
    intro min max hbounds
    refine legible_boundMembers fun bound hbound => ?_
    obtain ⟨j, name, hmem, hread⟩ := boundsOfMembers?_eq_some hbounds hbound
    exact TimeBound.legible_of_ofJson? (hlegible _ hmem) hread
  have hnumbers : ∀ {min max : Option Binary64}, (∀ x, min = some x ∨ max = some x → x.IsFinite) →
      ∀ member ∈ boundMembers Json.ofFloat min max, member.2.Legible depth := by
    intro min max hfinite
    refine legible_boundMembers fun x hx => ?_
    rw [Json.ofFloat, if_pos (hfinite x hx)]
    exact Json.legible_of_isNumber depth (hfinite x hx)
  cases name with
  | any =>
      obtain ⟨kinds, hkinds, rfl⟩ := Option.map_eq_some_iff.1 h
      refine ⟨trivial, fun member hmember => ?_⟩
      rw [LeafType.members] at hmember
      split at hmember
      · cases hmember
      · next hne =>
          obtain rfl := List.mem_singleton.1 hmember
          rcases Json.withDefault?_eq_some hkinds with rfl | ⟨j, hmem, hread⟩
          · exact absurd rfl hne
          · -- the kinds were read of an array, so there is room for one
            cases j with
            | arr items =>
                obtain ⟨below, rfl, -⟩ := Json.legible_arr.1 (hlegible _ hmem)
                exact Json.legible_arr.2 ⟨below, rfl, List.forall_mem_map.2 fun _ _ => trivial⟩
            | _ => cases hread
  | int =>
      obtain ⟨⟨min, max⟩, -, rfl⟩ := Option.map_eq_some_iff.1 h
      exact ⟨trivial, legible_boundMembers fun _ _ => trivial⟩
  | float =>
      obtain ⟨⟨min, max⟩, hbounds, rfl⟩ := Option.map_eq_some_iff.1 h
      exact ⟨hfloat hbounds, hnumbers (hfloat hbounds)⟩
  | number =>
      obtain ⟨⟨min, max⟩, hbounds, rfl⟩ := Option.map_eq_some_iff.1 h
      exact ⟨hfloat hbounds, hnumbers (hfloat hbounds)⟩
  | bool =>
      cases h
      exact ⟨trivial, nofun⟩
  | string | email =>
      obtain ⟨length, -, rfl⟩ := Option.map_eq_some_iff.1 h
      exact ⟨trivial, length.legible_members depth⟩
  | regex =>
      obtain ⟨pattern, -, h⟩ := Option.bind_eq_some_iff.1 h
      obtain ⟨length, -, h⟩ := Option.bind_eq_some_iff.1 h
      cases h
      exact ⟨trivial, List.forall_mem_cons.2 ⟨trivial, length.legible_members depth⟩⟩
  | uuid =>
      obtain ⟨stripHyphens, -, rfl⟩ := Option.map_eq_some_iff.1 h
      exact ⟨trivial, List.forall_mem_singleton.2 trivial⟩
  | date | datetime =>
      obtain ⟨⟨min, max⟩, hbounds, rfl⟩ := Option.map_eq_some_iff.1 h
      exact ⟨trivial, htime hbounds⟩
  | object | array | choice => cases h

namespace Definition

variable {inner : Json → Option Definition}

/-- A record is legible, if the members of its type and its options are. -/
theorem legible_record {type : TypeName} {own : List (String × Json)} {options : Options}
    (hown : ∀ member ∈ own, member.2.Legible depth)
    (hoptions : ∀ member ∈ options.members, member.2.Legible depth) :
    (record type own options).Legible (depth + 1) := by
  refine Json.legible_obj.2 ⟨depth, rfl, List.forall_mem_cons.2 ⟨trivial, fun member hmember => ?_⟩⟩
  exact (List.mem_append.1 hmember).elim (hown member) (hoptions member)

/-- What is read of an object is faithful and legible, if that holds of what is read within it. -/
theorem faithful_of_ofMembers? (hinner : ∀ {depth j d}, Json.Legible depth j → inner j = some d →
      d.Faithful ∧ d.toJson.Legible depth) {d : Definition}
    (hlegible : ∀ member ∈ members, member.2.Legible depth) (h : ofMembers? inner members = some d) :
    d.Faithful ∧ d.toJson.Legible (depth + 1) := by
  obtain ⟨options, hoptions, h⟩ := Option.bind_eq_some_iff.1 h
  obtain ⟨hfaithful, hwritten⟩ := Options.faithful_of_ofMembers? hlegible hoptions
  obtain ⟨type, -, h⟩ := Option.bind_eq_some_iff.1 h
  split at h
  · -- an object
    obtain ⟨fields, hfields, h⟩ := Option.bind_eq_some_iff.1 h
    obtain ⟨strict, -, h⟩ := Option.bind_eq_some_iff.1 h
    cases h
    obtain ⟨j, hj, hread⟩ := Json.required?_eq_some hfields
    obtain ⟨written, rfl, hsorted, hparts⟩ := fieldsOf?_eq_some hread
    obtain ⟨below, rfl, hbelow⟩ := Json.legible_obj.1 (hlegible _ hj)
    have hfield : ∀ field ∈ fields, field.2.Faithful ∧ field.2.toJson.Legible below := by
      intro field hfield
      obtain ⟨part, hpart, hread'⟩ := hparts field hfield
      exact hinner (hbelow part hpart) hread'
    refine ⟨everywhere_object.2 ⟨⟨hsorted, hfaithful⟩, fun field hmem => (hfield field hmem).1⟩, ?_⟩
    refine legible_record (List.forall_mem_cons.2 ⟨?_, List.forall_mem_singleton.2 trivial⟩) hwritten
    rw [toJsonFields_eq_map]
    exact Json.legible_obj.2 ⟨below, rfl, List.forall_mem_map.2 fun field hmem => (hfield field hmem).2⟩
  · -- an array
    obtain ⟨items, hitems, h⟩ := Option.bind_eq_some_iff.1 h
    obtain ⟨length, -, h⟩ := Option.bind_eq_some_iff.1 h
    cases h
    obtain ⟨j, hj, hread⟩ := Json.required?_eq_some hitems
    obtain ⟨hitemsFaithful, hitemsLegible⟩ := hinner (hlegible _ hj) hread
    refine ⟨⟨hfaithful, hitemsFaithful⟩, ?_⟩
    exact legible_record (List.forall_mem_cons.2 ⟨hitemsLegible, length.legible_members depth⟩) hwritten
  · -- a choice
    obtain ⟨entries, hentries, h⟩ := Option.bind_eq_some_iff.1 h
    cases h
    obtain ⟨j, hj, hread⟩ := Json.required?_eq_some hentries
    obtain ⟨items, rfl, hitems⟩ := entriesOf?_eq_some hread
    obtain ⟨below, rfl, hbelow⟩ := Json.legible_arr.1 (hlegible _ hj)
    -- an entry is read of an object with one member, and written as one
    have hsingle : ∀ {name j}, .obj [(name, j)] ∈ items →
        ∃ deeper, below = deeper + 1 ∧ Json.Legible deeper j := by
      intro name j hmem
      obtain ⟨deeper, rfl, hdeeper⟩ := Json.legible_obj.1 (hbelow _ hmem)
      exact ⟨deeper, rfl, hdeeper _ (List.mem_singleton_self _)⟩
    have hwrap : ∀ {name j deeper}, Json.Legible deeper j →
        (Json.obj [(name, j)]).Legible (deeper + 1) :=
      fun hj => Json.legible_obj.2 ⟨_, rfl, List.forall_mem_singleton.2 hj⟩
    refine ⟨everywhere_choice.2 ⟨⟨fun literal hliteral => ?_, hfaithful⟩, fun d hd => ?_⟩, ?_⟩
    · obtain ⟨j, -, heq⟩ | ⟨part, d, -, -, heq⟩ := hitems _ hliteral
      · cases heq
        exact Json.canonical_canonical j
      · cases heq
    · obtain ⟨literal, -, heq⟩ | ⟨part, d', hpart, hread', heq⟩ := hitems _ hd
      · cases heq
      · cases heq
        obtain ⟨deeper, -, hdeeper⟩ := hsingle hpart
        exact (hinner hdeeper hread').1
    · refine legible_record (List.forall_mem_singleton.2 ?_) hwritten
      rw [toJsonEntries_eq_map]
      refine Json.legible_arr.2 ⟨below, rfl, List.forall_mem_map.2 fun entry hentry => ?_⟩
      obtain ⟨literal, hliteral, rfl⟩ | ⟨part, d, hpart, hread', rfl⟩ := hitems entry hentry
      · obtain ⟨deeper, rfl, hdeeper⟩ := hsingle hliteral
        exact hwrap hdeeper.canonical
      · obtain ⟨deeper, rfl, hdeeper⟩ := hsingle hpart
        exact hwrap (hinner hdeeper hread').2
  · -- a leaf
    obtain ⟨leaf, hleaf, rfl⟩ := Option.map_eq_some_iff.1 h
    obtain ⟨htype, hmembers⟩ := LeafType.faithful_of_ofMembers? hlegible hleaf
    exact ⟨⟨htype, hfaithful⟩, legible_record hmembers hwritten⟩

/-- **A definition that is read is faithful**, and its document is as legible as what was read. -/
theorem faithful_of_ofJson? {j : Json} {d : Definition} (hj : j.Legible depth)
    (h : ofJson? j = some d) : d.Faithful ∧ d.toJson.Legible depth := by
  -- the induction is on the depth down to which the document is read
  have hwithin : ∀ {fuel depth : ℕ} {j : Json} {d : Definition}, j.Legible depth →
      ofJsonWithin? fuel j = some d → d.Faithful ∧ d.toJson.Legible depth := by
    intro fuel
    induction fuel with
    | zero =>
        intro depth j d _ h
        cases h
    | succ fuel ih =>
        intro depth j d hj h
        obtain ⟨members, hmembers, h⟩ := Option.bind_eq_some_iff.1 h
        cases j with
        | obj written =>
            cases hmembers
            obtain ⟨below, rfl, hbelow⟩ := Json.legible_obj.1 hj
            exact faithful_of_ofMembers? ih hbelow h
        | _ => cases hmembers
  exact hwithin hj h

end Definition

end Read

end Conform
