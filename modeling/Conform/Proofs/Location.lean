/-
**Locations.**

The path of a fault is a text.  It stands for a *location*, a sequence of names and indices that leads
from a value to one of its parts.  A location is written with a point in front of each name but the
first and with each index between brackets; whoever finds a fault in a part puts the part's segment in
front.

Names that hold neither points nor brackets and are not empty are *clean*.  Among locations of clean
names a path stands for one at most.

Main definitions:

* `Segment`, `Location` — a step into a value, and a sequence of steps;
* `Location.render` — the path of a location;
* `Location.Clean` — the names of a location are clean.

Main results:

* `Location.render_cons` — the path of a fault seen from the enclosing value;
* `Location.render_injective` — **a path stands for one clean location at most**.
-/

import Conform.Fault
import Mathlib

set_option relaxedAutoImplicit false
set_option autoImplicit false

namespace Conform

/-! ### Segments -/

/-- A step into a value. -/
inductive Segment where
  /-- to the member of an object -/
  | name (name : String)
  /-- to the item of an array -/
  | index (index : Nat)
deriving DecidableEq

/-- The name is not empty, and no point and no opening bracket is in it. -/
def CleanName (name : String) : Prop := name ≠ "" ∧ ∀ c ∈ name.toList, c ≠ '.' ∧ c ≠ '['

instance (name : String) : Decidable (CleanName name) :=
  @instDecidableAnd (name ≠ "") _ _ (List.decidableBAll _ name.toList)

namespace Segment

/-- The segment in a path. -/
def text : Segment → String
  | name s => s
  | index i => "[" ++ Fault.number i ++ "]"

/-- What joins the segment to those in front of it. -/
def link : Segment → String
  | name _ => "."
  | index _ => ""

/-- The name of the segment, if it has one, is clean. -/
def Clean : Segment → Prop
  | name s => CleanName s
  | index _ => True

end Segment

/-! ### Locations -/

/-- Steps from a value to a part of it. -/
abbrev Location := List Segment

namespace Location

/-- The path of a location behind other segments. -/
def behind : Location → String
  | [] => ""
  | segment :: rest => segment.link ++ (segment.text ++ behind rest)

/-- The path of a location. -/
def render : Location → String
  | [] => ""
  | segment :: rest => segment.text ++ behind rest

/-- All names of the location are clean. -/
def Clean (l : Location) : Prop := ∀ segment ∈ l, segment.Clean

variable {l l' : Location} {s s' : Segment}

theorem clean_cons : Clean (s :: l) ↔ s.Clean ∧ Clean l := List.forall_mem_cons

/-! ### Faults seen from the enclosing value -/

theorem head?_text_name {name : String} (h : CleanName name) :
    ∃ c, name.toList.head? = some c ∧ c ≠ '.' ∧ c ≠ '[' := by
  cases hlist : name.toList with
  | nil =>
      refine absurd ?_ h.1
      rw [← String.ofList_toList (s := name), hlist]
  | cons c rest => exact ⟨c, rfl, h.2 c (by rw [hlist]; exact List.mem_cons_self ..)⟩

theorem toList_text_index (i : Nat) :
    (Segment.index i).text.toList = '[' :: (Nat.toDigits 10 i ++ [']']) := by
  simp [Segment.text, Fault.number, Json.integerChars, Decimal.digitChars]

theorem render_cons_ne_empty (hs : s.Clean) : render (s :: l) ≠ "" := by
  intro hempty
  have hlist := congrArg String.toList hempty
  rw [render, String.toList_append] at hlist
  cases s with
  | name name =>
      obtain ⟨c, hc, -⟩ := head?_text_name hs
      simp_all [Segment.text]
  | index i => simp [toList_text_index] at hlist

/-- A fault at a clean location, seen from the enclosing value, is at that location behind the
segment. -/
theorem render_cons {fault : Fault} (hl : Clean l) (h : fault.path = render l) (s : Segment) :
    (fault.within s.text).path = render (s :: l) := by
  rw [Fault.within, h]
  cases l with
  | nil => simp [render, behind]
  | cons t l =>
      rw [if_neg (render_cons_ne_empty (clean_cons.1 hl).1)]
      cases t with
      | name name =>
          obtain ⟨c, hc, -, hbracket⟩ := head?_text_name (clean_cons.1 hl).1
          have hhead : (render (.name name :: l)).toList.head? = some c := by
            rw [render, String.toList_append, List.head?_append, Segment.text, hc]
            rfl
          rw [hhead, if_neg (by simpa using hbracket)]
          simp [render, behind, Segment.link, String.append_assoc]
      | index i =>
          have hhead : (render (.index i :: l)).toList.head? = some '[' := by
            rw [render, String.toList_append, toList_text_index]
            rfl
          rw [hhead, if_pos rfl]
          simp [render, behind, Segment.link]

/-! ### Paths of different locations -/

/-- Two texts of one kind of characters, each followed by something else, can be told from it. -/
theorem eq_of_append_eq {p : Char → Prop} {a b c d : List Char} (ha : ∀ x ∈ a, p x)
    (hc : ∀ x ∈ c, p x) (hb : ∀ x, b.head? = some x → ¬ p x) (hd : ∀ x, d.head? = some x → ¬ p x)
    (h : a ++ b = c ++ d) : a = c ∧ b = d := by
  induction a generalizing c with
  | nil =>
      cases c with
      | nil => exact ⟨rfl, h⟩
      | cons x c =>
          have hx : b.head? = some x := by rw [← List.nil_append b, h]; rfl
          exact absurd (hc x (List.mem_cons_self ..)) (hb x hx)
  | cons y a ih =>
      cases c with
      | nil =>
          have hy : d.head? = some y := by rw [← List.nil_append d, ← h]; rfl
          exact absurd (ha y (List.mem_cons_self ..)) (hd y hy)
      | cons x c =>
          rw [List.cons_append, List.cons_append, List.cons.injEq] at h
          obtain ⟨rfl, h⟩ := h
          obtain ⟨rfl, rfl⟩ := ih (fun x hx => ha x (List.mem_cons_of_mem _ hx))
            (fun x hx => hc x (List.mem_cons_of_mem _ hx)) h
          exact ⟨rfl, rfl⟩

theorem head?_behind (s : Segment) (l : Location) : (behind (s :: l)).toList.head? =
    some (match s with | .name _ => '.' | .index _ => '[') := by
  cases s with
  | name name => simp [behind, Segment.link]
  | index i => simp [behind, Segment.link, toList_text_index]

/-- What follows a segment begins with a character that no clean name has. -/
theorem not_clean_of_head?_behind {c : Char} (h : (behind l).toList.head? = some c) :
    ¬ (c ≠ '.' ∧ c ≠ '[') := by
  intro hclean
  cases l with
  | nil => cases h
  | cons s l =>
      rw [head?_behind] at h
      cases s with
      | name _ => exact hclean.1 (Option.some.inj h).symm
      | index _ => exact hclean.2 (Option.some.inj h).symm

/-- The first segment of a path can be told from the rest. -/
theorem text_append_inj (hs : s.Clean) (hs' : s'.Clean)
    (h : s.text ++ behind l = s'.text ++ behind l') : s = s' ∧ behind l = behind l' := by
  have hlist := congrArg String.toList h
  rw [String.toList_append, String.toList_append] at hlist
  cases s with
  | name name =>
      cases s' with
      | name name' =>
          -- both names end where a character stands that is not clean
          obtain ⟨hname, hrest⟩ := eq_of_append_eq hs.2 hs'.2
            (fun _ => not_clean_of_head?_behind) (fun _ => not_clean_of_head?_behind) hlist
          rw [String.toList_inj.1 hname]
          exact ⟨rfl, String.toList_inj.1 hrest⟩
      | index i =>
          obtain ⟨c, hc, -, hbracket⟩ := head?_text_name hs
          have hhead := congrArg List.head? hlist
          rw [List.head?_append, Segment.text, hc, toList_text_index] at hhead
          exact absurd (Option.some.inj hhead) hbracket
  | index i =>
      cases s' with
      | name name =>
          obtain ⟨c, hc, -, hbracket⟩ := head?_text_name hs'
          have hhead := congrArg List.head? hlist
          rw [List.head?_append (l := (Segment.name name).text.toList), Segment.text.eq_1, hc,
            toList_text_index] at hhead
          exact absurd (Option.some.inj hhead).symm hbracket
      | index j =>
          rw [toList_text_index, toList_text_index, List.cons_append, List.cons_append,
            List.append_assoc, List.append_assoc, List.cons.injEq] at hlist
          -- both indices end at the closing bracket, which is no digit
          have hdigit : ∀ n, ∀ c ∈ Nat.toDigits 10 n, c.isDigit = true := fun n c hc =>
            Nat.isDigit_of_mem_toDigits (by omega) (by omega) hc
          obtain ⟨hdigits, hrest⟩ := eq_of_append_eq (p := fun c => c.isDigit = true) (hdigit i)
            (hdigit j) (by simp) (by simp) hlist.2
          have hnumber : i = j := by
            rw [← Nat.ofDigitChars_ten_toDigits (n := i), hdigits, Nat.ofDigitChars_ten_toDigits]
          rw [hnumber]
          exact ⟨rfl, String.toList_inj.1 (List.append_cancel_left hrest)⟩

theorem behind_injective (hl : Clean l) (hl' : Clean l') (h : behind l = behind l') : l = l' := by
  induction l generalizing l' with
  | nil =>
      cases l' with
      | nil => rfl
      | cons s l' =>
          have hhead := head?_behind s l'
          rw [← h] at hhead
          cases hhead
  | cons s l ih =>
      cases l' with
      | nil =>
          have hhead := head?_behind s l
          rw [h] at hhead
          cases hhead
      | cons s' l' =>
          obtain ⟨hs, hrest⟩ := clean_cons.1 hl
          obtain ⟨hs', hrest'⟩ := clean_cons.1 hl'
          -- the link tells names from indices
          have hlink : s.link = s'.link := by
            have hhead := head?_behind s l
            rw [h, head?_behind] at hhead
            cases s <;> cases s' <;> simp_all [Segment.link]
          rw [behind, behind, hlink] at h
          have hlist := congrArg String.toList h
          rw [String.toList_append, String.toList_append (s := s'.link)] at hlist
          obtain ⟨hsegment, hbehind⟩ := text_append_inj hs hs'
            (String.toList_inj.1 (List.append_cancel_left hlist))
          rw [hsegment, ih hrest hrest' hbehind]

/-- **A path stands for one clean location at most.** -/
theorem render_injective (hl : Clean l) (hl' : Clean l') (h : render l = render l') : l = l' := by
  cases l with
  | nil =>
      cases l' with
      | nil => rfl
      | cons s' l' => exact absurd h.symm (render_cons_ne_empty (clean_cons.1 hl').1)
  | cons s l =>
      cases l' with
      | nil => exact absurd h (render_cons_ne_empty (clean_cons.1 hl).1)
      | cons s' l' =>
          obtain ⟨hsegment, hbehind⟩ := text_append_inj (clean_cons.1 hl).1 (clean_cons.1 hl').1 h
          rw [hsegment, behind_injective (clean_cons.1 hl).2 (clean_cons.1 hl').2 hbehind]

end Location

end Conform
