/-
**Members: named entries kept in the order of their names.**

Objects, field tables and registries all hold named entries.  Here they are plain lists of pairs,
so that they can stand inside a recursive type; what makes such a list a table is the predicate
`Members.Sorted`: the names ascend strictly, hence no name occurs twice.  Names are ordered by their
code points, which is the order of their UTF-8 bytes.

Main definitions:

* `Members.find?` — the entry under a name;
* `Members.insert` — puts an entry at its place, replacing the entry of that name;
* `Members.ofList` — the table of a list of entries, in which a repeated name keeps its last entry;
* `Members.erase` — the table without a name;
* `Members.Sorted` — the names ascend strictly.
-/

set_option relaxedAutoImplicit false
set_option autoImplicit false

namespace Conform

/-- Named entries. -/
abbrev Members (α : Type) := List (String × α)

namespace Members

variable {α β : Type}

/-- The names, in order. -/
def names (ms : Members α) : List String := ms.map (·.1)

/-- The entries without their names. -/
def entries (ms : Members α) : List α := ms.map (·.2)

/-- The names ascend strictly. -/
def Sorted (ms : Members α) : Prop := ms.Pairwise (fun a b => a.1 < b.1)

instance (ms : Members α) : Decidable (Sorted ms) :=
  inferInstanceAs (Decidable (ms.Pairwise _))

/-- The first entry under `name`. -/
def find? (ms : Members α) (name : String) : Option α :=
  match ms with
  | [] => none
  | (k, a) :: rest => if k = name then some a else find? rest name

/-- Is there an entry under `name`? -/
def has (ms : Members α) (name : String) : Bool := (find? ms name).isSome

/-- Puts an entry before the first greater name; an entry of the same name is replaced. -/
def insert (ms : Members α) (name : String) (a : α) : Members α :=
  match ms with
  | [] => [(name, a)]
  | (k, b) :: rest =>
    if name < k then (name, a) :: (k, b) :: rest
    else if name = k then (name, a) :: rest
    else (k, b) :: insert rest name a

/-- The table of a list of entries: a repeated name keeps its last entry. -/
def ofList (entries : List (String × α)) : Members α :=
  entries.foldl (fun ms e => insert ms e.1 e.2) []

/-- The entries under other names. -/
def erase (ms : Members α) (name : String) : Members α := ms.filter (fun e => e.1 ≠ name)

/-- Applies a function to each entry. -/
def mapEntries (f : α → β) (ms : Members α) : Members β := ms.map (fun e => (e.1, f e.2))

/-! ### Looking up -/

@[simp] theorem find?_nil (name : String) : find? ([] : Members α) name = none := rfl

theorem find?_cons (k : String) (a : α) (rest : Members α) (name : String) :
    find? ((k, a) :: rest) name = if k = name then some a else find? rest name := rfl

/-- An entry that is found stands in the list. -/
theorem mem_of_find?_eq_some {ms : Members α} {name : String} {a : α}
    (h : find? ms name = some a) : (name, a) ∈ ms := by
  induction ms with
  | nil => simp at h
  | cons e rest ih =>
      obtain ⟨k, b⟩ := e
      rw [find?_cons] at h
      by_cases hk : k = name
      · rw [if_pos hk] at h
        cases h
        subst hk
        exact List.mem_cons_self
      · rw [if_neg hk] at h
        exact List.mem_cons_of_mem _ (ih h)

/-- Nothing is found exactly where the name does not occur. -/
theorem find?_eq_none_iff {ms : Members α} {name : String} :
    find? ms name = none ↔ name ∉ names ms := by
  induction ms with
  | nil => simp [names]
  | cons e rest ih =>
      obtain ⟨k, b⟩ := e
      rw [find?_cons]
      by_cases hk : k = name
      · simp [hk, names]
      · rw [if_neg hk, ih]
        simp only [names, List.map_cons, List.mem_cons, not_or]
        exact ⟨fun h => ⟨fun e => hk e.symm, h⟩, fun h => h.2⟩

/-! ### Inserting -/

/-- What was inserted is found, and other names keep their entries. -/
theorem find?_insert (ms : Members α) (name : String) (a : α) (key : String) :
    find? (insert ms name a) key = if name = key then some a else find? ms key := by
  induction ms with
  | nil => rfl
  | cons e rest ih =>
      obtain ⟨k, b⟩ := e
      simp only [insert]
      split
      · rw [find?_cons]
      · split
        · next hk =>
            subst hk
            rw [find?_cons, find?_cons]
            split <;> rfl
        · next hk =>
            rw [find?_cons, ih, find?_cons]
            by_cases h₁ : k = key
            · subst h₁
              rw [if_pos rfl, if_neg hk, if_pos rfl]
            · rw [if_neg h₁, if_neg h₁]

/-- The names after an insertion are the old names and the new one. -/
theorem mem_names_insert {ms : Members α} {name : String} {a : α} {key : String} :
    key ∈ names (insert ms name a) ↔ key = name ∨ key ∈ names ms := by
  have hnot : key ∉ names (insert ms name a) ↔ ¬ (key = name ∨ key ∈ names ms) := by
    rw [← find?_eq_none_iff, find?_insert, not_or, ← find?_eq_none_iff]
    by_cases h : name = key
    · simp [h]
    · rw [if_neg h]
      exact ⟨fun hn => ⟨fun e => h e.symm, hn⟩, fun hn => hn.2⟩
  exact Decidable.not_iff_not.1 hnot

/-- Insertion keeps the order of the names. -/
theorem Sorted.insert {ms : Members α} (h : Sorted ms) (name : String) (a : α) :
    Sorted (Members.insert ms name a) := by
  induction ms with
  | nil => exact List.pairwise_singleton _ _
  | cons e rest ih =>
      obtain ⟨k, b⟩ := e
      obtain ⟨hk, hr⟩ := List.pairwise_cons.1 h
      simp only [Members.insert]
      split
      · next hlt =>
          refine List.pairwise_cons.2 ⟨?_, h⟩
          intro e he
          rcases List.mem_cons.1 he with rfl | he
          · exact hlt
          · exact String.lt_trans hlt (hk e he)
      · next hnlt =>
          split
          · next heq =>
              subst heq
              exact List.pairwise_cons.2 ⟨hk, hr⟩
          · next hne =>
              have hgt : k < name := by
                by_cases hlt : k < name
                · exact hlt
                · exact absurd (String.le_antisymm (String.not_lt.1 hlt) (String.not_lt.1 hnlt)) hne
              refine List.pairwise_cons.2 ⟨?_, ih hr⟩
              intro e he
              have hn : e.1 ∈ names (Members.insert rest name a) := List.mem_map_of_mem he
              rcases mem_names_insert.1 hn with hn | hn
              · rw [hn]
                exact hgt
              · obtain ⟨e', he', hee⟩ := List.mem_map.1 hn
                rw [← hee]
                exact hk e' he'

/-- The table of any list of entries is sorted. -/
theorem sorted_ofList (entries : List (String × α)) : Sorted (ofList entries) := by
  have hfold : ∀ (es : List (String × α)) (ms : Members α), Sorted ms →
      Sorted (es.foldl (fun ms e => Members.insert ms e.1 e.2) ms) := by
    intro es
    induction es with
    | nil => exact fun _ h => h
    | cons e rest ih => exact fun ms h => ih _ (h.insert e.1 e.2)
  exact hfold entries [] List.Pairwise.nil

end Members

end Conform
