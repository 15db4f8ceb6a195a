/-
**JSON documents as trees.**

A tree keeps the members of each object as they were written: their order, and every repetition of
a name.  A *canonical* tree has its members sorted by name, without repetitions; `Json.canonical`
makes any tree canonical, letting the last member of a name win.

Numbers come in three kinds.  An integer that fits 64 signed bits is an `int`; a greater one that
still fits 64 unsigned bits is a `big`; every other number is a binary64 `float`.

Main definitions:

* `Json` — the trees;
* `Json.canonical` — sorting the members;
* `Json.depth`, `Json.size` — the nesting depth and the number of values;
* `Json.member?` — the last member of a name.
-/

import Conform.Binary64.Basic
import Conform.Members

set_option relaxedAutoImplicit false
set_option autoImplicit false

namespace Conform

/-- A JSON document; the members of an object stand in the order in which they are written. -/
inductive Json where
  | null
  | bool (b : Bool)
  /-- an integer of 64 signed bits -/
  | int (n : Int64)
  /-- an integer of 64 unsigned bits that is too great for an `int` -/
  | big (n : UInt64)
  | float (x : Binary64)
  | str (s : String)
  | arr (items : List Json)
  | obj (members : List (String × Json))
deriving Inhabited

namespace Json

mutual

/-- Decides equality of trees. -/
def decEq : (a b : Json) → Decidable (a = b)
  | .null, b => match b with
    | .null => isTrue rfl
    | .bool _ | .int _ | .big _ | .float _ | .str _ | .arr _ | .obj _ => isFalse nofun
  | .bool x, b => match b with
    | .bool y => decidable_of_iff (x = y) (by simp)
    | .null | .int _ | .big _ | .float _ | .str _ | .arr _ | .obj _ => isFalse nofun
  | .int x, b => match b with
    | .int y => decidable_of_iff (x = y) (by simp)
    | .null | .bool _ | .big _ | .float _ | .str _ | .arr _ | .obj _ => isFalse nofun
  | .big x, b => match b with
    | .big y => decidable_of_iff (x = y) (by simp)
    | .null | .bool _ | .int _ | .float _ | .str _ | .arr _ | .obj _ => isFalse nofun
  | .float x, b => match b with
    | .float y => decidable_of_iff (x = y) (by simp)
    | .null | .bool _ | .int _ | .big _ | .str _ | .arr _ | .obj _ => isFalse nofun
  | .str x, b => match b with
    | .str y => decidable_of_iff (x = y) (by simp)
    | .null | .bool _ | .int _ | .big _ | .float _ | .arr _ | .obj _ => isFalse nofun
  | .arr xs, b => match b with
    | .arr ys => match decEqItems xs ys with
      | isTrue h => isTrue (h ▸ rfl)
      | isFalse h => isFalse fun e => h (by injection e)
    | .null | .bool _ | .int _ | .big _ | .float _ | .str _ | .obj _ => isFalse nofun
  | .obj xs, b => match b with
    | .obj ys => match decEqMembers xs ys with
      | isTrue h => isTrue (h ▸ rfl)
      | isFalse h => isFalse fun e => h (by injection e)
    | .null | .bool _ | .int _ | .big _ | .float _ | .str _ | .arr _ => isFalse nofun

/-- Decides equality of lists of trees. -/
def decEqItems : (xs ys : List Json) → Decidable (xs = ys)
  | [], [] => isTrue rfl
  | [], _ :: _ => isFalse nofun
  | _ :: _, [] => isFalse nofun
  | x :: xs, y :: ys =>
    match decEq x y, decEqItems xs ys with
    | isTrue h₁, isTrue h₂ => isTrue (h₁ ▸ h₂ ▸ rfl)
    | isFalse h, _ => isFalse fun e => h (by injection e)
    | _, isFalse h => isFalse fun e => h (by injection e)

/-- Decides equality of lists of members. -/
def decEqMembers : (xs ys : List (String × Json)) → Decidable (xs = ys)
  | [], [] => isTrue rfl
  | [], _ :: _ => isFalse nofun
  | _ :: _, [] => isFalse nofun
  | (k, x) :: xs, (l, y) :: ys =>
    match decEq x y, decEqMembers xs ys with
    | isTrue h₁, isTrue h₂ =>
      if h₀ : k = l then isTrue (h₀ ▸ h₁ ▸ h₂ ▸ rfl)
      else isFalse fun e => h₀ (by injection e with e₁ _; exact congrArg Prod.fst e₁)
    | isFalse h, _ => isFalse fun e => h (by injection e with e₁ _; exact congrArg Prod.snd e₁)
    | _, isFalse h => isFalse fun e => h (by injection e)

end

instance : DecidableEq Json := decEq

/-! ### Canonical trees -/

mutual

/-- Sorts the members of every object; of a repeated name the last member stays. -/
def canonical : Json → Json
  | .arr items => .arr (canonicalItems items)
  | .obj members => .obj (Members.ofList (canonicalMembers members))
  | .null => .null
  | .bool b => .bool b
  | .int n => .int n
  | .big n => .big n
  | .float x => .float x
  | .str s => .str s

/-- `canonical` on each item. -/
def canonicalItems : List Json → List Json
  | [] => []
  | j :: rest => canonical j :: canonicalItems rest

/-- `canonical` on each member, the members staying in place. -/
def canonicalMembers : List (String × Json) → List (String × Json)
  | [] => []
  | (k, j) :: rest => (k, canonical j) :: canonicalMembers rest

end

/-! ### Size -/

mutual

/-- The nesting depth; a value without parts has depth 1. -/
def depth : Json → Nat
  | .arr items => 1 + depthItems items
  | .obj members => 1 + depthMembers members
  | .null | .bool _ | .int _ | .big _ | .float _ | .str _ => 1

/-- The greatest depth among the items, zero if there are none. -/
def depthItems : List Json → Nat
  | [] => 0
  | j :: rest => max (depth j) (depthItems rest)

/-- The greatest depth among the members, zero if there are none. -/
def depthMembers : List (String × Json) → Nat
  | [] => 0
  | (_, j) :: rest => max (depth j) (depthMembers rest)

end

mutual

/-- The number of values, this one included. -/
def size : Json → Nat
  | .arr items => 1 + sizeItems items
  | .obj members => 1 + sizeMembers members
  | .null | .bool _ | .int _ | .big _ | .float _ | .str _ => 1

/-- The number of values in the items. -/
def sizeItems : List Json → Nat
  | [] => 0
  | j :: rest => size j + sizeItems rest

/-- The number of values in the members. -/
def sizeMembers : List (String × Json) → Nat
  | [] => 0
  | (_, j) :: rest => size j + sizeMembers rest

end

/-- The member of an object under a name, the last one if there are several. -/
def member? (j : Json) (name : String) : Option Json :=
  match j with
  | .obj members => Members.find? members.reverse name
  | _ => none

end Json

end Conform
