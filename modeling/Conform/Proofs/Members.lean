/-
**Sorted tables.**

In a table the names ascend strictly, so that an entry stands at one place only.  This module says
what follows from it: an entry of the table is found under its name, the smaller names stand in front
of it, and a list that is a table already is left as it is.

Main results:

* `Members.Sorted.find?_eq_some_iff` — the entries of a table are those that are found;
* `Members.mem_front` — smaller names stand in front;
* `Members.ofList_eq_self` — a table is the table of its entries;
* `Members.find?_names_insert`, `Members.find?_names_erase` — what is inserted or erased is not seen by
  a search for other names;
* `Members.ofList_eq_of_perm`, `Members.find?_eq_of_perm` — where no name is repeated, the order of
  entries does not matter;
* `Members.of_mem_of_forall₂` — tables with the same names agree at the same places.
-/

import Conform.Members
import Mathlib

set_option relaxedAutoImplicit false
set_option autoImplicit false

namespace Conform

/-- If the terms of one list are given in another order, so are those of a list that is related to it
term by term. -/
theorem exists_forall₂_of_perm {α β : Type} {r : α → β → Prop} {as as' : List α} {bs : List β}
    (hperm : as'.Perm as) (h : List.Forall₂ r as bs) :
    ∃ bs', List.Forall₂ r as' bs' ∧ bs'.Perm bs := by
  have hcomp : Relation.Comp List.Perm (List.Forall₂ r) as' bs := ⟨as, hperm, h⟩
  rw [← List.forall₂_comp_perm_eq_perm_comp_forall₂] at hcomp
  exact hcomp

namespace Members

variable {α β : Type} {ms : Members α} {name : String} {a : α}

theorem sorted_iff : Sorted ms ↔ (names ms).Pairwise (· < ·) := List.pairwise_map.symm

/-- The order is one of the names alone. -/
theorem sorted_congr {ns : Members β} (h : names ms = names ns) : Sorted ms ↔ Sorted ns := by
  rw [sorted_iff, sorted_iff, h]

/-- Where no name is repeated, the entries are those that are found. -/
theorem find?_eq_some_iff (h : (names ms).Nodup) : find? ms name = some a ↔ (name, a) ∈ ms := by
  constructor
  · exact mem_of_find?_eq_some
  · intro hmem
    induction ms with
    | nil => cases hmem
    | cons e rest ih =>
        obtain ⟨hnot, hrest⟩ := List.nodup_cons.1 h
        rcases List.mem_cons.1 hmem with rfl | hmem
        · exact if_pos rfl
        · have hne : e.1 ≠ name := by
            rintro rfl
            exact hnot (List.mem_map.2 ⟨(e.1, a), hmem, rfl⟩)
          rw [← ih hrest hmem]
          exact if_neg hne

/-- In a table no name is repeated. -/
theorem Sorted.nodup (h : Sorted ms) : (names ms).Nodup :=
  (sorted_iff.1 h).imp String.ne_of_lt

/-- The entries of a table are those that are found. -/
theorem Sorted.find?_eq_some_iff (h : Sorted ms) : find? ms name = some a ↔ (name, a) ∈ ms :=
  Members.find?_eq_some_iff h.nodup

/-- In a table no two entries stand under one name. -/
theorem Sorted.eq_of_mem (h : Sorted ms) {b : α} (ha : (name, a) ∈ ms) (hb : (name, b) ∈ ms) :
    a = b := by
  have hfind : find? ms name = some a := h.find?_eq_some_iff.2 ha
  rw [h.find?_eq_some_iff.2 hb] at hfind
  exact (Option.some.inj hfind).symm

/-- In front of an entry stand all those with smaller names. -/
theorem mem_front {front rest : Members α} {entry other : String × α}
    (h : Sorted (front ++ entry :: rest)) (hmem : other ∈ front ++ entry :: rest)
    (hlt : other.1 < entry.1) : other ∈ front := by
  rw [Sorted, List.pairwise_append] at h
  obtain ⟨hgreater, -⟩ := List.pairwise_cons.1 h.2.1
  rcases List.mem_append.1 hmem with hmem | hmem
  · exact hmem
  · rcases List.mem_cons.1 hmem with rfl | hmem
    · exact absurd hlt (String.lt_irrefl _)
    · exact absurd (String.lt_trans hlt (hgreater other hmem)) (String.lt_irrefl _)

/-! ### Insertion -/

/-- A name smaller than all others goes to the front. -/
theorem insert_eq_cons (h : ∀ key ∈ names ms, name < key) :
    Members.insert ms name a = (name, a) :: ms := by
  cases ms with
  | nil => rfl
  | cons e rest => rw [Members.insert, if_pos (h e.1 (List.mem_cons_self ..))]

/-- A name greater than all others goes to the end. -/
theorem insert_eq_append (h : ∀ key ∈ names ms, key < name) :
    Members.insert ms name a = ms ++ [(name, a)] := by
  induction ms with
  | nil => rfl
  | cons e rest ih =>
      obtain ⟨k, b⟩ := e
      have hk : k < name := h k (List.mem_cons_self ..)
      have hrest : ∀ key ∈ names rest, key < name := fun key hkey =>
        h key (List.mem_cons_of_mem _ hkey)
      rw [Members.insert, if_neg (fun hlt => String.lt_irrefl _ (String.lt_trans hk hlt)),
        if_neg (fun heq => String.lt_irrefl _ (heq ▸ hk)), ih hrest]
      rfl

/-- What stands in a table after an insertion was inserted or stood there before. -/
theorem mem_of_mem_insert {e : String × α} (h : e ∈ Members.insert ms name a) :
    e = (name, a) ∨ e ∈ ms := by
  induction ms with
  | nil => exact .inl (List.mem_singleton.1 h)
  | cons head rest ih =>
      obtain ⟨k, b⟩ := head
      rw [Members.insert] at h
      split at h
      · exact List.mem_cons.1 h
      · split at h
        · rcases List.mem_cons.1 h with heq | hmem
          · exact .inl heq
          · exact .inr (List.mem_cons_of_mem _ hmem)
        · rcases List.mem_cons.1 h with heq | hmem
          · exact .inr (heq ▸ List.mem_cons_self ..)
          · exact (ih hmem).imp_right (List.mem_cons_of_mem _)

/-- The entries of a table are among those it was made of. -/
theorem mem_of_mem_ofList {entries : List (String × α)} {e : String × α}
    (h : e ∈ ofList entries) : e ∈ entries := by
  have hfold : ∀ (rest : List (String × α)) (ms : Members α),
      e ∈ rest.foldl (fun ms e => Members.insert ms e.1 e.2) ms → e ∈ ms ∨ e ∈ rest := by
    intro rest
    induction rest with
    | nil => exact fun ms hmem => .inl hmem
    | cons head rest ih =>
        intro ms hmem
        rcases ih _ hmem with hmem | hmem
        · rcases mem_of_mem_insert hmem with heq | hmem
          · exact .inr (heq ▸ List.mem_cons_self ..)
          · exact .inl hmem
        · exact .inr (List.mem_cons_of_mem _ hmem)
  exact (hfold entries [] h).resolve_left List.not_mem_nil

/-- What holds of all that is written holds of all that the table holds. -/
theorem forall_mem_ofList_mapEntries {β : Type} {f : α → β} {p : β → Prop}
    (h : ∀ e ∈ ms, p (f e.2)) : ∀ e ∈ ofList (mapEntries f ms), p e.2 := by
  intro e he
  obtain ⟨written, hwritten, rfl⟩ := List.mem_map.1 (mem_of_mem_ofList he)
  exact h written hwritten

/-- A table is the table of its entries. -/
theorem ofList_eq_self (h : Sorted ms) : ofList ms = ms := by
  have hfold : ∀ (rest front : Members α), Sorted (front ++ rest) →
      rest.foldl (fun ms e => Members.insert ms e.1 e.2) front = front ++ rest := by
    intro rest
    induction rest with
    | nil => exact fun front _ => (List.append_nil front).symm
    | cons e rest ih =>
        intro front hsorted
        have hsmaller : ∀ key ∈ names front, key < e.1 := by
          intro key hkey
          obtain ⟨e', he', rfl⟩ := List.mem_map.1 hkey
          exact (List.pairwise_append.1 hsorted).2.2 e' he' e (List.mem_cons_self ..)
        have hassoc : front ++ e :: rest = (front ++ [e]) ++ rest := by
          rw [List.append_assoc, List.singleton_append]
        rw [List.foldl_cons, insert_eq_append hsmaller, hassoc]
        exact ih (front ++ [e]) (hassoc ▸ hsorted)
  exact hfold ms [] h

/-- Of the entries under other names, none has the name. -/
theorem find?_erase (ms : Members α) (name key : String) :
    find? (Members.erase ms name) key = if name = key then none else find? ms key := by
  induction ms with
  | nil => simp [Members.erase]
  | cons e rest ih =>
      obtain ⟨k, b⟩ := e
      rw [Members.erase] at ih ⊢
      by_cases hk : k = name
      · subst hk
        rw [List.filter_cons_of_neg (by simp), ih, find?_cons]
        split <;> rfl
      · rw [List.filter_cons_of_pos (by simpa using hk), find?_cons, ih, find?_cons]
        by_cases hkey : k = key
        · subst hkey
          rw [if_pos rfl, if_pos rfl, if_neg (Ne.symm hk)]
        · rw [if_neg hkey, if_neg hkey]

/-- A search for a name does not see an entry whose name it does not search for. -/
theorem find?_names_insert {p : String → Bool} (hp : p name = false) (ms : Members α) (a : α) :
    (names (Members.insert ms name a)).find? p = (names ms).find? p := by
  induction ms with
  | nil => simp [Members.insert, names, hp]
  | cons e rest ih =>
      obtain ⟨k, b⟩ := e
      rw [Members.insert]
      split
      · simp [names, hp]
      · split
        · next heq =>
            subst heq
            simp [names, hp]
        · simp only [names, List.map_cons, List.find?_cons] at ih ⊢
          rw [ih]

/-- A search for a name does not see whether an entry is gone whose name it does not search for. -/
theorem find?_names_erase {p : String → Bool} (hp : p name = false) (ms : Members α) :
    (names (Members.erase ms name)).find? p = (names ms).find? p := by
  induction ms with
  | nil => rfl
  | cons e rest ih =>
      obtain ⟨k, b⟩ := e
      rw [Members.erase] at ih ⊢
      by_cases hk : k = name
      · subst hk
        rw [List.filter_cons_of_neg (by simp), ih]
        simp [names, hp]
      · rw [List.filter_cons_of_pos (by simpa using hk)]
        simp only [names, List.map_cons, List.find?_cons] at ih ⊢
        rw [ih]

/-! ### Entries in any order -/

/-- An entry of a new name is added to a table, somewhere. -/
theorem perm_insert (h : name ∉ names ms) : (Members.insert ms name a).Perm ((name, a) :: ms) := by
  induction ms with
  | nil => exact .refl _
  | cons e rest ih =>
      obtain ⟨k, b⟩ := e
      obtain ⟨hne, hrest⟩ := not_or.1 (List.mem_cons.not.1 h)
      rw [Members.insert, if_neg hne]
      split
      · exact .refl _
      · exact ((ih hrest).cons _).trans (.swap ..)

/-- Where no name is repeated, the table of entries has just these. -/
theorem perm_ofList {entries : List (String × α)} (h : (names entries).Nodup) :
    (ofList entries).Perm entries := by
  have hfold : ∀ (rest : List (String × α)) (ms : Members α), (names (ms ++ rest)).Nodup →
      (rest.foldl (fun ms e => Members.insert ms e.1 e.2) ms).Perm (ms ++ rest) := by
    intro rest
    induction rest with
    | nil => exact fun ms _ => by simp
    | cons e rest ih =>
        intro ms hnodup
        have hmiddle : (e :: ms ++ rest).Perm (ms ++ e :: rest) := List.perm_middle.symm
        have hnew : e.1 ∉ names ms := by
          have hcons := (hmiddle.map Prod.fst).nodup_iff.2 hnodup
          exact fun hmem => (List.nodup_cons.1 hcons).1
            (List.mem_map.2 ((List.mem_map.1 hmem).imp fun _ => .imp_left (List.mem_append_left _)))
        have hinsert : (Members.insert ms e.1 e.2 ++ rest).Perm (ms ++ e :: rest) :=
          ((perm_insert hnew).append_right rest).trans hmiddle
        exact (ih _ ((hinsert.map Prod.fst).nodup_iff.2 hnodup)).trans hinsert
  exact hfold entries [] h

/-- Where no name is repeated, entries in any order make the same table. -/
theorem ofList_eq_of_perm {entries others : List (String × α)} (h : entries.Perm others)
    (hnodup : (names entries).Nodup) : ofList entries = ofList others := by
  have hothers : (names others).Nodup := (h.map Prod.fst).nodup_iff.1 hnodup
  refine ((perm_ofList hnodup).trans (h.trans (perm_ofList hothers).symm)).eq_of_pairwise
    (fun a b _ _ hab hba => ?_) (sorted_ofList entries) (sorted_ofList others)
  exact absurd (String.lt_trans hab hba) (String.lt_irrefl _)

/-- Where no name is repeated, entries are found in any order. -/
theorem find?_eq_of_perm {ns : Members α} (h : ms.Perm ns) (hnodup : (names ms).Nodup) :
    find? ms name = find? ns name :=
  Option.ext fun a => by
    rw [find?_eq_some_iff hnodup, find?_eq_some_iff ((h.map Prod.fst).nodup_iff.1 hnodup), h.mem_iff]

theorem find?_mapEntries (f : α → β) (ms : Members α) (name : String) :
    find? (mapEntries f ms) name = (find? ms name).map f := by
  induction ms with
  | nil => rfl
  | cons e rest ih =>
      rw [mapEntries, List.map_cons, find?_cons, find?_cons, ← mapEntries, ih]
      split <;> rfl

/-! ### Two tables -/

variable {R : String × α → String × β → Prop} {ns : Members β}

theorem names_mapEntries (f : α → β) (ms : Members α) : names (mapEntries f ms) = names ms :=
  List.map_map

/-- Lists that agree in the names entry by entry have the same names. -/
theorem names_of_forall₂ (h : List.Forall₂ (fun a b => b.1 = a.1 ∧ R a b) ms ns) :
    names ns = names ms := by
  induction h with
  | nil => rfl
  | cons hhead _ ih => exact congrArg₂ List.cons hhead.1 ih

/-- In tables with the same names, entries of one name stand at the same place. -/
theorem of_mem_of_forall₂ (h : List.Forall₂ (fun a b => b.1 = a.1 ∧ R a b) ms ns)
    (hsorted : Sorted ms) {b : β} (ha : (name, a) ∈ ms) (hb : (name, b) ∈ ns) :
    R (name, a) (name, b) := by
  induction h with
  | nil => cases ha
  | @cons e e' rest others hhead hrest ih =>
      obtain ⟨hlt, hsorted⟩ := List.pairwise_cons.1 hsorted
      rcases List.mem_cons.1 ha with rfl | ha
      · rcases List.mem_cons.1 hb with rfl | hb
        · exact hhead.2
        · have hmem : name ∈ names rest := by
            rw [← names_of_forall₂ hrest]
            exact List.mem_map_of_mem hb
          obtain ⟨field, hfield, hname⟩ := List.mem_map.1 hmem
          exact absurd (hlt field hfield) (by simp [hname])
      · rcases List.mem_cons.1 hb with rfl | hb
        · exact absurd (hlt _ ha) (by simp [hhead.1.symm])
        · exact ih hsorted ha hb

end Members

end Conform
