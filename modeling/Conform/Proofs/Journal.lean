/-
**The lines of the journal cannot be forged.**

Event, keys and values are any texts, quotes, controls and line breaks among them.  Whatever they are,
an entry is written on one line, and its end is the only line break in it; a reader gets back the event,
the severity and the fields, so no text in them is taken for another part of the line.

The fields stand in the order of their keys.  Where no key is repeated, that order is the only one, and
it makes no difference in which order the fields were given.

Main definitions:

* `Entry.Proper` — no key is repeated, nor one of the two that every line has;
* `Entry.Reads` — what a line is and what is read from it.

Main results:

* `Entry.Proper.sortedFields_eq` — the fields have one order only;
* `Entry.Proper.reads_back` — **what is read from a line is what was noted**.
-/

import Conform.Journal
import Conform.Proofs.ByteOrder
import Conform.Proofs.Json.Line
import Conform.Proofs.Members
import Mathlib

set_option relaxedAutoImplicit false
set_option autoImplicit false

namespace Conform

/-- **A legible document is read as it is written.** -/
theorem Json.read?_compact {j : Json} (h : j.Legible nestingLimit) : read? j.compact = some j := by
  rw [read?, source_compact h]
  exact toJson?_toSource h

/-- The name of a severity tells which one it is. -/
theorem Severity.ofName?_name (severity : Severity) : ofName? severity.name = some severity := by
  cases severity <;> decide

namespace Entry

variable {entry other : Entry}

/-- No key of a field is repeated, and none is one of the two that every line has. -/
structure Proper (entry : Entry) : Prop where
  nodup : (Members.names entry.fields).Nodup
  event : "event" ∉ Members.names entry.fields
  severity : "severity" ∉ Members.names entry.fields

/-! ### The order of the fields -/

theorem perm_sortedFields (entry : Entry) : entry.sortedFields.Perm entry.fields :=
  List.mergeSort_perm ..

theorem Proper.names_sortedFields_nodup (h : entry.Proper) :
    (Members.names entry.sortedFields).Nodup :=
  (entry.perm_sortedFields.map Prod.fst).nodup_iff.2 h.nodup

/-- Where no key is repeated, the fields are a table. -/
theorem Proper.sorted_sortedFields (h : entry.Proper) : Members.Sorted entry.sortedFields := by
  have hle : entry.sortedFields.Pairwise fun a b => decide (a.1 ≤ b.1) = true := by
    refine List.pairwise_mergeSort (fun a b c hab hbc => ?_) (fun a b => ?_) _
    · exact decide_eq_true (String.le_trans (of_decide_eq_true hab) (of_decide_eq_true hbc))
    · simpa using String.le_total a.1 b.1
  have hne : entry.sortedFields.Pairwise fun a b => a.1 ≠ b.1 :=
    List.pairwise_map.1 h.names_sortedFields_nodup
  refine (hle.and hne).imp fun {a b} hab => ?_
  exact lt_of_le_of_ne (of_decide_eq_true hab.1) hab.2

/-- Where no key is repeated, the fields have one order only. -/
theorem Proper.sortedFields_eq (h : entry.Proper) {fields : List (String × String)}
    (hperm : fields.Perm entry.fields) (hsorted : Members.Sorted fields) :
    entry.sortedFields = fields := by
  refine (entry.perm_sortedFields.trans hperm.symm).eq_of_pairwise (fun a b _ _ hab hba => ?_)
    h.sorted_sortedFields hsorted
  exact absurd (String.lt_trans hab hba) (String.lt_irrefl _)

theorem Proper.of_perm (h : entry.Proper) (hperm : other.fields.Perm entry.fields) : other.Proper where
  nodup := (hperm.map Prod.fst).nodup_iff.2 h.nodup
  event := fun hmem => h.event ((hperm.map Prod.fst).mem_iff.1 hmem)
  severity := fun hmem => h.severity ((hperm.map Prod.fst).mem_iff.1 hmem)

/-! ### Lines -/

/-- The members of a line. -/
def members (entry : Entry) : Members Json :=
  ("event", .str entry.event) :: ("severity", .str entry.severity.name) ::
    Members.mapEntries .str entry.sortedFields

theorem forall_mem_members {p : String × Json → Prop} : (∀ member ∈ entry.members, p member) ↔
    p ("event", .str entry.event) ∧ p ("severity", .str entry.severity.name) ∧
      ∀ field ∈ entry.sortedFields, p (field.1, .str field.2) := by
  rw [members, List.forall_mem_cons, List.forall_mem_cons, Members.mapEntries, List.forall_mem_map]

/-- A line is read as its members. -/
theorem read?_text (entry : Entry) : Json.read? entry.text = some (.obj entry.members) := by
  refine Json.read?_compact (Json.legible_obj.2 ⟨_, rfl, ?_⟩)
  exact forall_mem_members.2 ⟨trivial, trivial, fun _ _ => trivial⟩

theorem newline_not_mem_text (entry : Entry) : '\n' ∉ entry.text.toList :=
  Json.newline_not_mem_compact entry.toJson

/-- In a proper entry no two members have one name. -/
theorem Proper.nodup_members (h : entry.Proper) : (Members.names entry.members).Nodup := by
  have hnames : ∀ name, name ∈ Members.names entry.sortedFields ↔ name ∈ Members.names entry.fields :=
    fun name => (entry.perm_sortedFields.map Prod.fst).mem_iff
  show ("event" :: "severity" :: Members.names (Members.mapEntries Json.str entry.sortedFields)).Nodup
  rw [Members.names_mapEntries, List.nodup_cons, List.nodup_cons, List.mem_cons, hnames, hnames]
  exact ⟨by simp [h.event], h.severity, h.names_sortedFields_nodup⟩

/-- Under a name stands what was noted under it. -/
theorem Proper.member?_eq_some (h : entry.Proper) {name : String} {w : Json} :
    (Json.obj entry.members).member? name = some w ↔
      (name = "event" ∧ w = .str entry.event) ∨
      (name = "severity" ∧ w = .str entry.severity.name) ∨
      ∃ value, (name, value) ∈ entry.fields ∧ w = .str value := by
  have hreverse : (Members.names entry.members.reverse).Nodup := by
    rw [Members.names, List.map_reverse, List.nodup_reverse]
    exact h.nodup_members
  rw [Json.member?, Members.find?_eq_some_iff hreverse, List.mem_reverse]
  simp only [members, Members.mapEntries, List.mem_cons, List.mem_map, Prod.mk.injEq, Prod.exists,
    entry.perm_sortedFields.mem_iff]
  refine or_congr_right (or_congr_right ⟨?_, ?_⟩)
  · rintro ⟨key, value, hmem, rfl, rfl⟩
    exact ⟨value, hmem, rfl⟩
  · rintro ⟨value, hmem, rfl⟩
    exact ⟨name, value, hmem, rfl, rfl⟩

/-- What the line of an entry is, and what is read from it. -/
structure Reads (entry : Entry) : Prop where
  /-- the only line break is the end of the line -/
  line : entry.line = entry.text ++ "\n"
  whole : '\n' ∉ entry.text.toList
  /-- in front of it stands one object, with the fields in the order of the bytes of their keys -/
  members : ∃ fields : List (String × String), fields.Perm entry.fields ∧
    (Members.names fields).Pairwise (fun a b => Utf8.bytes a < Utf8.bytes b) ∧
    Json.read? entry.text = some (.obj (("event", .str entry.event) ::
      ("severity", .str entry.severity.name) :: fields.map fun field => (field.1, .str field.2)))
  /-- under a name stands what was noted under it, and under other names nothing -/
  found : ∀ j, Json.read? entry.text = some j → ∀ name w, j.member? name = some w ↔
    (name = "event" ∧ w = .str entry.event) ∨
    (name = "severity" ∧ w = .str entry.severity.name) ∨
    ∃ value, (name, value) ∈ entry.fields ∧ w = .str value
  severity : Severity.ofName? entry.severity.name = some entry.severity
  /-- in whatever order the fields are given, the line is the same -/
  permuted : ∀ fields : List (String × String), fields.Perm entry.fields → Entry.line { entry with fields } = entry.line

/-- **What is read from a line is what was noted**, whatever the texts in it. -/
theorem Proper.reads_back (h : entry.Proper) : entry.Reads where
  line := rfl
  whole := entry.newline_not_mem_text
  members := by
    refine ⟨entry.sortedFields, entry.perm_sortedFields, ?_, entry.read?_text⟩
    exact (Members.sorted_iff.1 h.sorted_sortedFields).imp Utf8.bytes_lt_iff.2
  found j hj name w := by
    obtain rfl := Option.some.inj (entry.read?_text.symm.trans hj)
    exact h.member?_eq_some
  severity := Severity.ofName?_name entry.severity
  permuted fields hperm := by
    have hother : Proper { entry with fields } := h.of_perm hperm
    have hsame : Entry.sortedFields { entry with fields } = entry.sortedFields :=
      hother.sortedFields_eq (entry.perm_sortedFields.trans hperm.symm) h.sorted_sortedFields
    rw [Entry.line, Entry.line, Entry.text, Entry.text, toJson, toJson, hsame]

/-- An entry whose texts would add another severity and another line if they stood as they are. -/
def forging : Entry :=
  ⟨.warn, "LOGIN", [("user", "x\",\"severity\":\"FATAL"), ("Zoë", "\x01"), ("\\", "\x7d\n\x7b")]⟩

theorem reads_forging :
    forging.text = "\x7b\"event\":\"LOGIN\",\"severity\":\"WARN\",\"Zoë\":\"\\u0001\"," ++
        "\"\\\\\":\"\x7d\\n\x7b\",\"user\":\"x\\\",\\\"severity\\\":\\\"FATAL\"\x7d" ∧
      forging.Proper ∧ forging.Reads := by
  have hproper : forging.Proper := ⟨by decide, by decide, by decide⟩
  have hsorted : forging.sortedFields =
      [("Zoë", "\x01"), ("\\", "\x7d\n\x7b"), ("user", "x\",\"severity\":\"FATAL")] :=
    hproper.sortedFields_eq (by decide) (by decide)
  refine ⟨?_, hproper, hproper.reads_back⟩
  rw [text, toJson, hsorted]
  decide +kernel

end Entry

end Conform
