/-
**The order of members does not matter.**

A tree lists the members of an object in an order, but a reader of records looks for its members by
their names.  So a tree in which no name is repeated can be sorted, at every depth, before it is read:
the same bounds, options, definitions and documents are read of it.

In particular a document is read of its tree as it is written, with the members in the order of the
fields of a record, and also of that tree as a table of names.

Main definitions:

* `Json.Distinct` — no object repeats a name;
* `Json.Neutral` — a reader that does not see the order of members;
* `Document.Writable` — what a document must be so that nothing of it is lost in writing.

Main results:

* `Definition.neutral_ofJson?`, `Document.neutral_ofJson?` — **the order of members does not matter to
  the readers of definitions and documents**;
* `Document.distinct_toJson` — the tree of a document repeats no name;
* `Document.ofJson?_of_written` — **a document is read of its tree, sorted or not**.
-/

import Conform.Proofs.DocumentText

set_option relaxedAutoImplicit false
set_option autoImplicit false

namespace Conform

/-! ### Trees without repeated names -/

namespace Json

/-- The tree, if it is an object, repeats no name. -/
def DistinctHere : Json → Prop
  | .obj members => (Members.names members).Nodup
  | .null | .bool _ | .int _ | .big _ | .float _ | .str _ | .arr _ => True

/-- No object of the tree repeats a name. -/
abbrev Distinct (j : Json) : Prop := j.Everywhere DistinctHere

/-- A sorted tree repeats no name. -/
theorem distinct_canonical (j : Json) : j.canonical.Distinct := by
  refine everywhere_canonical (fun j => ?_) j
  cases j with
  | obj members =>
      rw [canonical_obj]
      exact (Members.sorted_ofList _).nodup
  | _ => trivial

section Sorted

variable {members : List (String × Json)}

/-- Where no name is repeated, the sorted members are the sorted trees under the same names. -/
theorem perm_canonicalMembers (h : (Members.names members).Nodup) :
    (Members.ofList (Members.mapEntries canonical members)).Perm
      (Members.mapEntries canonical members) :=
  Members.perm_ofList ((Members.names_mapEntries canonical members).symm ▸ h)

theorem depthItems_map {items : List Json} (h : ∀ j ∈ items, j.canonical.depth = j.depth) :
    depthItems (items.map canonical) = depthItems items := by
  induction items with
  | nil => rfl
  | cons j rest ih =>
      obtain ⟨hj, hrest⟩ := List.forall_mem_cons.1 h
      rw [List.map_cons, depthItems, depthItems, hj, ih hrest]

theorem depthMembers_mapEntries (h : ∀ member ∈ members, member.2.canonical.depth = member.2.depth) :
    depthMembers (Members.mapEntries canonical members) = depthMembers members := by
  induction members with
  | nil => rfl
  | cons member rest ih =>
      obtain ⟨hmember, hrest⟩ := List.forall_mem_cons.1 h
      rw [Members.mapEntries, List.map_cons, depthMembers, hmember, ← Members.mapEntries, ih hrest,
        depthMembers]

theorem depthMembers_of_perm {others : List (String × Json)} (h : members.Perm others) :
    depthMembers members = depthMembers others := by
  induction h with
  | nil => rfl
  | cons member _ ih => rw [depthMembers, depthMembers, ih]
  | swap member other rest =>
      simp only [depthMembers]
      exact Nat.max_left_comm ..
  | trans _ _ ih ih' => exact ih.trans ih'

/-- Sorting does not change the depth of a tree. -/
theorem depth_canonical {j : Json} : j.Distinct → j.canonical.depth = j.depth := by
  induction j with
  | arr items ih =>
      intro h
      rw [canonical_arr, depth, depth, depthItems_map fun j hj => ih j hj (h.item hj)]
  | obj members ih =>
      intro h
      obtain ⟨hnodup, hmembers⟩ := everywhere_obj.1 h
      rw [canonical_obj, depth, depth, depthMembers_of_perm (perm_canonicalMembers hnodup),
        depthMembers_mapEntries fun member hmember => ih member hmember (hmembers member hmember)]
  | _ => exact fun _ => rfl

/-! ### Readers that do not see the order -/

variable {α : Type} {read : Json → Option α}

/-- A reader to which the order of members does not matter. -/
def Neutral (read : Json → Option α) : Prop := ∀ j : Json, j.Distinct → read j.canonical = read j

theorem neutral_asString? : Neutral asString? := fun j _ => by cases j <;> rfl

theorem neutral_asBool? : Neutral asBool? := fun j _ => by cases j <;> rfl

theorem neutral_asInt64? : Neutral asInt64? := fun j _ => by cases j <;> rfl

theorem neutral_asUInt64? : Neutral asUInt64? := fun j _ => by cases j <;> rfl

theorem neutral_asFloat? : Neutral asFloat? := fun j _ => by cases j <;> rfl

/-- The member of a name is found among the sorted ones, itself sorted. -/
theorem unique?_canonical (h : (obj members).Distinct) (name : String) :
    unique? (Members.ofList (Members.mapEntries canonical members)) name =
      some ((Members.find? members name).map canonical) := by
  have hnodup := (everywhere_obj.1 h).1
  have hnodup' : (Members.names (Members.mapEntries canonical members)).Nodup :=
    (Members.names_mapEntries canonical members).symm ▸ hnodup
  rw [unique?_eq_find? (Members.sorted_ofList _).nodup,
    Members.find?_eq_of_perm (Members.perm_ofList hnodup') (Members.sorted_ofList _).nodup,
    Members.find?_mapEntries]

theorem required?_canonical (hread : Neutral read) (h : (obj members).Distinct) (name : String) :
    required? read (Members.ofList (Members.mapEntries canonical members)) name =
      required? read members name := by
  obtain ⟨hnodup, hmembers⟩ := everywhere_obj.1 h
  rw [required?, required?, unique?_canonical h, unique?_eq_find? hnodup]
  cases hfind : Members.find? members name with
  | none => rfl
  | some j => exact hread j (hmembers _ (Members.mem_of_find?_eq_some hfind))

theorem optional?_canonical (hread : Neutral read) (h : (obj members).Distinct) (name : String) :
    optional? read (Members.ofList (Members.mapEntries canonical members)) name =
      optional? read members name := by
  obtain ⟨hnodup, hmembers⟩ := everywhere_obj.1 h
  rw [optional?, optional?, unique?_canonical h, unique?_eq_find? hnodup]
  cases hfind : Members.find? members name with
  | none => rfl
  | some j =>
      have hj := hread j (hmembers _ (Members.mem_of_find?_eq_some hfind))
      -- a tree is null exactly if it is null when sorted
      cases j with
      | null => rfl
      | _ => exact congrArg (some <$> ·) hj

theorem withDefault?_canonical {fallback : α} (hread : Neutral read) (h : (obj members).Distinct)
    (name : String) :
    withDefault? read fallback (Members.ofList (Members.mapEntries canonical members)) name =
      withDefault? read fallback members name := by
  obtain ⟨hnodup, hmembers⟩ := everywhere_obj.1 h
  rw [withDefault?, withDefault?, unique?_canonical h, unique?_eq_find? hnodup]
  cases hfind : Members.find? members name with
  | none => rfl
  | some j => exact hread j (hmembers _ (Members.mem_of_find?_eq_some hfind))

end Sorted

end Json

open Json

/-! ### Leaves -/

section Leaves

variable {members : List (String × Json)}

theorem mapM_map_congr {α β γ : Type} {f : β → Option γ} {f' : α → Option γ} {g : α → β} {as : List α}
    (h : ∀ a ∈ as, f (g a) = f' a) : (as.map g).mapM f = as.mapM f' := by
  induction as with
  | nil => rfl
  | cons a rest ih =>
      obtain ⟨ha, hrest⟩ := List.forall_mem_cons.1 h
      rw [List.map_cons, List.mapM_cons, List.mapM_cons, ha, ih hrest]

theorem neutral_textsOfJson? : Neutral textsOfJson? := by
  intro j h
  cases j with
  | arr items =>
      rw [canonical_arr]
      exact mapM_map_congr fun j hj => neutral_asString? j (h.item hj)
  | _ => rfl

theorem TimeBound.neutral_ofJson? : Neutral ofJson? := by
  intro j h
  cases j with
  | obj members =>
      rw [canonical_obj, ofJson?, ofJson?, required?_canonical neutral_asInt64? h]
  | _ => rfl

theorem LengthBounds.ofMembers?_canonical (h : (Json.obj members).Distinct) :
    ofMembers? (Members.ofList (Members.mapEntries canonical members)) = ofMembers? members := by
  rw [ofMembers?, ofMembers?, optional?_canonical neutral_asUInt64? h,
    optional?_canonical neutral_asUInt64? h]

theorem boundsOfMembers?_canonical {α : Type} {read : Json → Option α} (hread : Neutral read)
    (h : (Json.obj members).Distinct) :
    boundsOfMembers? read (Members.ofList (Members.mapEntries canonical members)) =
      boundsOfMembers? read members := by
  rw [boundsOfMembers?, boundsOfMembers?, optional?_canonical hread h, optional?_canonical hread h]

theorem LeafType.ofMembers?_canonical (h : (Json.obj members).Distinct) (type : TypeName) :
    ofMembers? (Members.ofList (Members.mapEntries canonical members)) type =
      ofMembers? members type := by
  cases type with
  | any => rw [ofMembers?, ofMembers?, withDefault?_canonical neutral_textsOfJson? h]
  | int => rw [ofMembers?, ofMembers?, boundsOfMembers?_canonical neutral_asInt64? h]
  | float | number => rw [ofMembers?, ofMembers?, boundsOfMembers?_canonical neutral_asFloat? h]
  | string | email => rw [ofMembers?, ofMembers?, LengthBounds.ofMembers?_canonical h]
  | regex =>
      rw [ofMembers?, ofMembers?, required?_canonical neutral_asString? h,
        LengthBounds.ofMembers?_canonical h]
  | uuid => rw [ofMembers?, ofMembers?, withDefault?_canonical neutral_asBool? h]
  | date | datetime =>
      rw [ofMembers?, ofMembers?, boundsOfMembers?_canonical TimeBound.neutral_ofJson? h]
  | bool | object | array | choice => rfl

theorem TypeName.neutral_ofJson? : Neutral ofJson? := fun j _ => by cases j <;> rfl

/-- A default is sorted when it is read. -/
theorem Options.ofMembers?_canonical (h : (Json.obj members).Distinct) :
    ofMembers? (Members.ofList (Members.mapEntries canonical members)) = ofMembers? members := by
  have hdefault : (optional? some (Members.ofList (Members.mapEntries canonical members))
      "default").map (Option.map canonical) =
        (optional? some members "default").map (Option.map canonical) := by
    rw [optional?, optional?, unique?_canonical h, unique?_eq_find? (everywhere_obj.1 h).1]
    cases Members.find? members "default" with
    | none => rfl
    | some j =>
        cases j with
        | null => rfl
        | _ => exact congrArg (fun j => some (some j)) (canonical_canonical _)
  have hbind : ∀ (o : Option (Option Json)) (nullable : Bool),
      (o >>= fun default => some (Options.mk nullable (default.map canonical))) =
        (o.map (Option.map canonical)).map (Options.mk nullable) := by
    intro o nullable
    cases o <;> rfl
  rw [ofMembers?, ofMembers?, withDefault?_canonical neutral_asBool? h]
  exact Option.bind_congr fun nullable _ => by rw [hbind, hbind, hdefault]

end Leaves

/-! ### Definitions -/

theorem mapM_eq_some_iff {α β : Type} {f : α → Option β} {as : List α} {bs : List β} :
    as.mapM f = some bs ↔ List.Forall₂ (fun a b => f a = some b) as bs := by
  induction as generalizing bs with
  | nil => simp [eq_comm]
  | cons a rest ih =>
      simp only [List.mapM_cons, Option.bind_eq_bind, Option.bind_eq_some_iff,
        List.forall₂_cons_left_iff, ← ih, Option.pure_def, Option.some.injEq]
      constructor
      · rintro ⟨b, hb, others, hothers, rfl⟩
        exact ⟨b, others, hb, hothers, rfl⟩
      · rintro ⟨b, others, hb, hothers, rfl⟩
        exact ⟨b, hb, others, hothers, rfl⟩

/-- Where no name is repeated, the entries of a list in any order are read as the same table. -/
theorem Members.ofList_mapM_of_perm {α β : Type} {read : α → Option β}
    {entries others : List (String × α)} (h : entries.Perm others)
    (hnodup : (Members.names entries).Nodup) :
    (entries.mapM fun entry => (entry.1, ·) <$> read entry.2).map Members.ofList =
      (others.mapM fun entry => (entry.1, ·) <$> read entry.2).map Members.ofList := by
  have hone : ∀ {entries others : List (String × α)} {table : Members β}, entries.Perm others →
      (Members.names entries).Nodup →
        (entries.mapM fun entry => (entry.1, ·) <$> read entry.2).map Members.ofList = some table →
          (others.mapM fun entry => (entry.1, ·) <$> read entry.2).map Members.ofList =
            some table := by
    intro entries others table h hnodup htable
    obtain ⟨parts, hparts, rfl⟩ := Option.map_eq_some_iff.1 htable
    have hread := mapM_eq_some_iff.1 hparts
    obtain ⟨parts', hread', hperm⟩ := exists_forall₂_of_perm h.symm hread
    have hnames : Members.names parts = Members.names entries :=
      Members.names_of_forall₂ (R := fun _ _ => True) (hread.imp fun entry part heq => by
        obtain ⟨b, -, rfl⟩ := Option.map_eq_some_iff.1 heq
        exact ⟨rfl, trivial⟩)
    rw [mapM_eq_some_iff.2 hread', Option.map_some,
      Members.ofList_eq_of_perm hperm.symm (hnames ▸ hnodup)]
  refine Option.ext fun table => ⟨hone h hnodup, hone h.symm ?_⟩
  exact (h.map Prod.fst).nodup_iff.1 hnodup

namespace Definition

variable {members : List (String × Json)} {inner : Json → Option Definition}

theorem neutral_fieldsOf? (hinner : Neutral inner) : Neutral (ofMembers?.fieldsOf? inner) := by
  have hfields : ∀ members : List (String × Json), ofMembers?.fieldsOf? inner (.obj members) =
      (members.mapM fun member => (member.1, ·) <$> inner member.2).map Members.ofList :=
    fun members => Option.map_eq_bind.symm
  intro j h
  cases j with
  | obj members =>
      obtain ⟨hnodup, hmembers⟩ := everywhere_obj.1 h
      rw [canonical_obj, hfields, hfields,
        Members.ofList_mapM_of_perm (perm_canonicalMembers hnodup) (Members.sorted_ofList _).nodup]
      exact congrArg (Option.map Members.ofList) (mapM_map_congr fun member hmember =>
        congrArg ((member.1, ·) <$> ·) (hinner member.2 (hmembers member hmember)))
  | _ => rfl

/-- The entry of a choice that an item stands for. -/
def entryOf? (inner : Json → Option Definition) : Json → Option (ChoiceEntry Definition)
  | .obj [("literal", j)] => some (.literal j.canonical)
  | .obj [("property", j)] => .property <$> inner j
  | _ => none

theorem entryOf?_eq_none (h : ∀ j, members ≠ [("literal", j)] ∧ members ≠ [("property", j)]) :
    entryOf? inner (.obj members) = none := by
  unfold entryOf?
  split
  · next j heq => exact absurd (Json.obj.inj heq) (h j).1
  · next j heq => exact absurd (Json.obj.inj heq) (h j).2
  · rfl

/-- An entry is an object with one member, and it still is when it is sorted. -/
theorem neutral_entryOf? (hinner : Neutral inner) : Neutral (entryOf? inner) := by
  intro j h
  cases j with
  | obj members =>
      obtain ⟨hnodup, hmembers⟩ := everywhere_obj.1 h
      rw [canonical_obj]
      by_cases hone : ∃ name part, members = [(name, part)]
      · obtain ⟨name, part, rfl⟩ := hone
        have hpart := hinner part (hmembers _ (List.mem_singleton_self _))
        have hsorted : Members.ofList (Members.mapEntries canonical [(name, part)]) =
            [(name, part.canonical)] := rfl
        rw [hsorted]
        by_cases hliteral : name = "literal"
        · subst hliteral
          exact congrArg (fun j => some (ChoiceEntry.literal j)) (canonical_canonical part)
        · by_cases hproperty : name = "property"
          · subst hproperty
            exact congrArg (ChoiceEntry.property <$> ·) hpart
          · rw [entryOf?_eq_none fun j => by simp [hliteral, hproperty],
              entryOf?_eq_none fun j => by simp [hliteral, hproperty]]
      · -- there are as many sorted members as there are members
        have hlength := (perm_canonicalMembers hnodup).length_eq
        rw [Members.mapEntries, List.length_map] at hlength
        have hnot : ∀ name part, Members.ofList (Members.mapEntries canonical members) ≠
            [(name, part)] := by
          intro name part heq
          rw [← Members.mapEntries, heq] at hlength
          obtain ⟨member, rfl⟩ := List.length_eq_one_iff.1 hlength.symm
          exact hone ⟨member.1, member.2, rfl⟩
        rw [entryOf?_eq_none fun j => ⟨hnot _ j, hnot _ j⟩, entryOf?_eq_none fun j =>
          ⟨fun heq => hone ⟨_, j, heq⟩, fun heq => hone ⟨_, j, heq⟩⟩]
  | _ => rfl

theorem neutral_entriesOf? (hinner : Neutral inner) : Neutral (ofMembers?.entriesOf? inner) := by
  have hentries : ∀ items : List Json,
      ofMembers?.entriesOf? inner (.arr items) = items.mapM (entryOf? inner) := fun _ => rfl
  intro j h
  cases j with
  | arr items =>
      rw [canonical_arr, hentries, hentries]
      exact mapM_map_congr fun j hj => neutral_entryOf? hinner j (h.item hj)
  | _ => rfl

theorem ofMembers?_canonical (hinner : Neutral inner) (h : (Json.obj members).Distinct) :
    ofMembers? inner (Members.ofList (Members.mapEntries canonical members)) =
      ofMembers? inner members := by
  simp only [ofMembers?, Options.ofMembers?_canonical h,
    required?_canonical TypeName.neutral_ofJson? h, required?_canonical (neutral_fieldsOf? hinner) h,
    withDefault?_canonical neutral_asBool? h, required?_canonical hinner h,
    LengthBounds.ofMembers?_canonical h, required?_canonical (neutral_entriesOf? hinner) h,
    LeafType.ofMembers?_canonical h]

theorem neutral_ofJsonWithin? (depth : ℕ) : Neutral (ofJsonWithin? depth) := by
  induction depth with
  | zero => exact fun _ _ => rfl
  | succ depth ih =>
      intro j h
      cases j with
      | obj members =>
          rw [canonical_obj]
          exact ofMembers?_canonical ih h
      | _ => rfl

/-- **The order of members does not matter to the reader of definitions.** -/
theorem neutral_ofJson? : Neutral ofJson? := by
  intro j h
  rw [ofJson?, ofJson?, depth_canonical h]
  exact neutral_ofJsonWithin? j.depth j h

end Definition

/-! ### Documents -/

namespace Document

variable {document : Document}

theorem neutral_fieldsOf? : Neutral fieldsOf? :=
  Definition.neutral_fieldsOf? Definition.neutral_ofJson?

theorem neutral_descriptionOf? : Neutral descriptionOf? := fun j _ => by cases j <;> rfl

/-- **The order of members does not matter to the reader of documents.** -/
theorem neutral_ofJson? : Neutral ofJson? := by
  intro j h
  cases j with
  | obj members =>
      rw [canonical_obj]
      simp only [ofJson?, required?_canonical neutral_asString? h,
        optional?_canonical neutral_asString? h, withDefault?_canonical neutral_asBool? h,
        required?_canonical neutral_fieldsOf? h]
  | arr items =>
      rw [canonical_arr]
      -- an array of another length is no document, in any order
      rcases items with _ | ⟨id, _ | ⟨version, _ | ⟨description, _ | ⟨strict, _ |
        ⟨fields, _ | ⟨extra, others⟩⟩⟩⟩⟩⟩
      case cons.cons.cons.cons.cons.nil =>
        have hpart : ∀ j ∈ [id, version, description, strict, fields], j.Distinct :=
          fun part hpart => h.item hpart
        simp only [List.forall_mem_cons] at hpart
        obtain ⟨hid, hversion, hdescription, hstrict, hfields, -⟩ := hpart
        simp only [List.map_cons, List.map_nil, ofJson?, neutral_asString? id hid,
          neutral_asString? version hversion, neutral_descriptionOf? description hdescription,
          neutral_asBool? strict hstrict, neutral_fieldsOf? fields hfields]
      all_goals rfl
  | _ => rfl

end Document

/-! ### Trees of documents -/

namespace Json

variable {α : Type} {write : α → Json} {name : String} {o : Option α}

theorem distinct_optional (h : ∀ a, o = some a → (write a).Distinct) :
    ∀ member ∈ optional name write o, member.2.Distinct := by
  intro member hmember
  cases o with
  | none => cases hmember
  | some a =>
      obtain rfl := List.mem_singleton.1 hmember
      exact h a rfl

theorem distinct_ofUInt64 (n : UInt64) : (ofUInt64 n).Distinct := by
  unfold ofUInt64
  split <;> trivial

theorem distinct_ofFloat (x : Binary64) : (ofFloat x).Distinct := by
  unfold ofFloat
  split <;> trivial

end Json

theorem Options.distinct_members {options : Options} (h : options.Faithful) :
    ∀ member ∈ options.members, member.2.Distinct := by
  refine List.forall_mem_cons.2 ⟨trivial, Json.distinct_optional fun j hj => ?_⟩
  exact (h j hj).1 ▸ distinct_canonical j

theorem LengthBounds.distinct_members (length : LengthBounds) :
    ∀ member ∈ length.members, member.2.Distinct :=
  List.forall_mem_append.2 ⟨distinct_optional fun n _ => distinct_ofUInt64 n,
    distinct_optional fun n _ => distinct_ofUInt64 n⟩

theorem TimeBound.distinct_toJson (bound : TimeBound) : bound.toJson.Distinct := by
  cases bound with
  | relative days =>
      exact Json.everywhere_obj.2 ⟨List.nodup_singleton _, List.forall_mem_singleton.2 trivial⟩
  | literal text => trivial

theorem LeafType.distinct_members (type : LeafType) : ∀ member ∈ type.members, member.2.Distinct := by
  have hbounds : ∀ {α : Type} {write : α → Json} (min max : Option α), (∀ a, (write a).Distinct) →
      ∀ member ∈ boundMembers write min max, member.2.Distinct :=
    fun min max h => List.forall_mem_append.2 ⟨distinct_optional fun a _ => h a,
      distinct_optional fun a _ => h a⟩
  cases type with
  | any kinds =>
      intro member hmember
      rw [members] at hmember
      split at hmember
      · cases hmember
      · obtain rfl := List.mem_singleton.1 hmember
        exact Json.everywhere_arr.2 ⟨trivial, List.forall_mem_map.2 fun _ _ => trivial⟩
  | int min max => exact hbounds min max fun _ => trivial
  | float min max | number min max => exact hbounds min max distinct_ofFloat
  | bool => exact List.forall_mem_nil _
  | string length | email length => exact length.distinct_members
  | regex pattern length => exact List.forall_mem_cons.2 ⟨trivial, length.distinct_members⟩
  | uuid stripHyphens => exact List.forall_mem_singleton.2 trivial
  | date min max | datetime min max => exact hbounds min max TimeBound.distinct_toJson

namespace Definition

/-- A record repeats no name, if its parts do not. -/
theorem distinct_record {type : TypeName} {members : List (String × Json)} {options : Options}
    (hnames : (Members.names members).Sublist ownNames) (hoptions : options.Faithful)
    (hmembers : ∀ member ∈ members, member.2.Distinct) : (record type members options).Distinct := by
  refine Json.everywhere_obj.2 ⟨nodup_recordMembers hnames, List.forall_mem_cons.2 ⟨trivial, ?_⟩⟩
  exact List.forall_mem_append.2 ⟨hmembers, Options.distinct_members hoptions⟩

theorem distinct_toJsonFields {fields : List (String × Definition)} (hsorted : Members.Sorted fields)
    (h : ∀ field ∈ fields, field.2.toJson.Distinct) : (Json.obj (toJsonFields fields)).Distinct := by
  have hnames : (Members.names (fields.map fun field => (field.1, field.2.toJson))).Nodup := by
    have heq : Members.names (fields.map fun field => (field.1, field.2.toJson)) =
        Members.names fields := Members.names_mapEntries toJson fields
    exact heq ▸ hsorted.nodup
  rw [toJsonFields_eq_map]
  exact Json.everywhere_obj.2 ⟨hnames, List.forall_mem_map.2 h⟩

/-- The document of a faithful definition repeats no name. -/
theorem distinct_toJson {d : Definition} (h : d.Faithful) : d.toJson.Distinct := by
  induction d with
  | leaf type options => exact distinct_record type.names_members_sublist h.2 type.distinct_members
  | object fields strict options ih =>
      obtain ⟨⟨hsorted, hoptions⟩, hfields⟩ := everywhere_object.1 h
      have hnames : ["fields", "strict"].Sublist ownNames := by decide
      refine distinct_record hnames hoptions (List.forall_mem_cons.2
        ⟨?_, List.forall_mem_singleton.2 trivial⟩)
      exact distinct_toJsonFields hsorted fun field hfield => ih field hfield (hfields field hfield)
  | array items length options ih =>
      exact distinct_record ((length.names_members_sublist.cons_cons "items").trans (by decide)) h.1
        (List.forall_mem_cons.2 ⟨ih h.2, length.distinct_members⟩)
  | choice entries options ih =>
      obtain ⟨⟨hliteral, hoptions⟩, hentries⟩ := everywhere_choice.1 h
      have hnames : ["choices"].Sublist ownNames := by decide
      refine distinct_record hnames hoptions (List.forall_mem_singleton.2 ?_)
      rw [toJsonEntries_eq_map]
      refine Json.everywhere_arr.2 ⟨trivial, List.forall_mem_map.2 fun entry hentry => ?_⟩
      cases entry with
      | literal j =>
          exact Json.everywhere_obj.2 ⟨List.nodup_singleton _,
            List.forall_mem_singleton.2 (hliteral j hentry ▸ distinct_canonical j)⟩
      | property d =>
          exact Json.everywhere_obj.2 ⟨List.nodup_singleton _,
            List.forall_mem_singleton.2 (ih d hentry (hentries d hentry))⟩

/-- The trees in a definition itself: its default, and the literals of a choice. -/
def trees : Definition → List Json
  | leaf _ options | object _ _ options | array _ _ options => options.default.toList
  | choice entries options =>
    options.default.toList ++ entries.filterMap fun
      | .literal j => some j
      | .property _ => none

/-- The bounds of a definition that are floats. -/
def floatBounds : Definition → List Binary64
  | leaf (.float min max) _ | leaf (.number min max) _ => min.toList ++ max.toList
  | leaf _ _ | object _ _ _ | array _ _ _ | choice _ _ => []

/-- A definition that can be written. -/
structure WritableHere (d : Definition) : Prop where
  /-- fields are a table -/
  fields : d.SortedFields
  /-- trees are tables -/
  trees : ∀ j ∈ d.trees, j.canonical = j
  /-- bounds are finite -/
  bounds : ∀ x ∈ d.floatBounds, x.IsFinite
  /-- no default is null, which would mean that there is none -/
  default : d.options.default ≠ some .null

instance : DecidablePred WritableHere := fun d =>
  decidable_of_iff (d.SortedFields ∧ (∀ j ∈ d.trees, j.canonical = j) ∧
    (∀ x ∈ d.floatBounds, x.IsFinite) ∧ d.options.default ≠ some .null)
    ⟨fun ⟨hfields, htrees, hbounds, hdefault⟩ => ⟨hfields, htrees, hbounds, hdefault⟩,
      fun h => ⟨h.fields, h.trees, h.bounds, h.default⟩⟩

theorem WritableHere.faithful {d : Definition} (h : d.WritableHere) : d.FaithfulHere := by
  have hoptions : (∀ j, d.options.default = some j → j ∈ d.trees) → d.options.Faithful :=
    fun htrees j hj => ⟨h.trees j (htrees j hj), fun hnull => h.default (hnull ▸ hj)⟩
  cases d with
  | leaf type options =>
      refine ⟨?_, hoptions fun j hj => Option.mem_toList.2 hj⟩
      have hbounds := h.bounds
      cases type with
      | float min max | number min max =>
          rintro x (hx | hx)
          · exact hbounds x (List.mem_append_left _ (Option.mem_toList.2 hx))
          · exact hbounds x (List.mem_append_right _ (Option.mem_toList.2 hx))
      | _ => trivial
  | object fields strict options =>
      exact ⟨h.fields, hoptions fun j hj => Option.mem_toList.2 hj⟩
  | array items length options => exact hoptions fun j hj => Option.mem_toList.2 hj
  | choice entries options =>
      refine ⟨fun j hj => h.trees j ?_, hoptions fun j hj => ?_⟩
      · exact List.mem_append_right _ (List.mem_filterMap.2 ⟨_, hj, rfl⟩)
      · exact List.mem_append_left _ (Option.mem_toList.2 hj)

end Definition

namespace Document

variable {document : Document} {depth : ℕ} {j : Json}

/-- The tree of a faithful document repeats no name. -/
theorem distinct_toJson (h : document.root.Faithful) : document.toJson.Distinct := by
  obtain ⟨⟨hsorted, -⟩, hfields⟩ := Definition.everywhere_object.1 h
  have hparts := Definition.distinct_toJsonFields hsorted fun field hfield =>
    Definition.distinct_toJson (hfields field hfield)
  have hdescription : ∀ s, document.description = some s → (Json.str s).Distinct :=
    fun _ _ => trivial
  refine Json.everywhere_obj.2 ⟨document.names_treeMembers_sublist.nodup (by decide), ?_⟩
  refine List.forall_mem_append.2 ⟨List.forall_mem_append.2 ⟨?_, distinct_optional hdescription⟩, ?_⟩
  · exact List.forall_mem_cons.2 ⟨trivial, List.forall_mem_singleton.2 trivial⟩
  · exact List.forall_mem_cons.2 ⟨trivial, List.forall_mem_singleton.2 hparts⟩

/-- A document that can be written: its tables are sorted, its float bounds are finite, and no default
is null. -/
abbrev Writable (document : Document) : Prop :=
  document.root.Everywhere Definition.WritableHere

/-- **A document is read of its tree as it is written**, and of the tree with its members sorted, if
it can be written or was read itself. -/
theorem ofJson?_of_written
    (h : document.Writable ∨ ∃ depth j, Json.Legible depth j ∧ ofJson? j = some document) :
    ofJson? document.toJson = some document ∧
      ofJson? document.toJson.canonical = some document := by
  have hfaithful : document.root.Faithful := by
    rcases h with hwritable | ⟨depth, j, hj, hread⟩
    · exact hwritable.imp fun d hd => hd.faithful
    · exact (faithful_of_ofJson? hj hread).1
  have hread := ofJson?_toJson hfaithful
  exact ⟨hread, (neutral_ofJson? _ (distinct_toJson hfaithful)).trans hread⟩

/-- A document with definitions of all types, in one another. -/
def sampler : Document :=
  ⟨"sampler", "1", some "all types", true,
    [("anything", .leaf (.any ["int", "string"]) ⟨true, some (.obj [("a", .arr [.null, .int 1])])⟩),
      ("contact", .object
        [("code", .leaf (.regex "[A-Z]+" ⟨some 2, none⟩) .standard),
          ("id", .leaf (.uuid true) ⟨false, none⟩),
          ("mail", .leaf (.email ⟨none, some 80⟩) .standard)] true ⟨true, some (.obj [])⟩),
      ("count", .leaf (.int (some 0) none) ⟨false, some (.int 3)⟩),
      ("due", .leaf (.date (some (.relative 7)) (some (.literal "2030-01-01"))) .standard),
      ("lines", .array (.choice [.literal .null, .literal (.obj [("k", .bool true)]),
        .property (.leaf (.number (some (.ofInt 1)) (some (.ofInt 9))) .standard)] .standard)
          ⟨some 1, some 5⟩ ⟨false, none⟩),
      ("paid", .leaf .bool ⟨true, some (.bool false)⟩),
      ("ratio", .leaf (.float none (some (.ofInt 2))) .standard),
      ("sent", .leaf (.datetime none none) .standard),
      ("title", .leaf (.string ⟨none, none⟩) .standard)]⟩

theorem ofJson?_of_written_sampler : sampler.Writable ∧
    ofJson? sampler.toJson = some sampler ∧ ofJson? sampler.toJson.canonical = some sampler := by
  have hwritable : sampler.Writable := by decide
  exact ⟨hwritable, ofJson?_of_written (.inl hwritable)⟩

end Document

end Conform
