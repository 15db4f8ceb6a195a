/-
**Limits on inputs.**

An input may be nested so deep and hold so many values.  It is walked in the order of its values,
each before its parts, and the first violation ends the walk; at one value the depth is looked at
before the count.

Main definitions:

* `Limits` — the greatest depth and the greatest count;
* `Limits.walkWith` — the walk, in any monad in which values can be entered;
* `Limits.enter`, `Limits.walk` — the walk that counts the values;
* `Limits.check` — does an input keep the limits?
-/

import Conform.Fault
import Conform.Json.Basic

set_option relaxedAutoImplicit false
set_option autoImplicit false

namespace Conform

/-- The greatest depth and the greatest number of values of an input. -/
structure Limits where
  depth : Nat
  nodes : Nat
deriving DecidableEq

namespace Limits

/-- The limits where none are configured. -/
def standard : Limits := ⟨32, 10000⟩

/-- Counts one value at a depth, `seen` values being behind. -/
def enter (limits : Limits) (depth seen : Nat) : Except Fault Nat :=
  if limits.depth < depth then .error (Fault.limitExceeded "depth" depth limits.depth)
  else if limits.nodes < seen + 1 then
    .error (Fault.limitExceeded "node count" (seen + 1) limits.nodes)
  else .ok (seen + 1)

section

variable {m : Type → Type} [Monad m] (enter : Nat → Nat → m Nat)

mutual

/-- Walks a value at a depth, `seen` values being behind, and enters each value that it comes to: the
greatest depth in it, and the number of values behind the walk. -/
def walkWith (depth seen : Nat) : Json → m (Nat × Nat)
  | .arr items => do
    let seen ← enter depth seen
    walkItems (depth + 1) depth seen items
  | .obj members => do
    let seen ← enter depth seen
    walkMembers (depth + 1) depth seen members
  | .null | .bool _ | .int _ | .big _ | .float _ | .str _ => do
    let seen ← enter depth seen
    pure (depth, seen)

/-- Walks items at a depth, `deepest` being the greatest depth so far. -/
def walkItems (depth deepest seen : Nat) : List Json → m (Nat × Nat)
  | [] => pure (deepest, seen)
  | j :: rest => do
    let (deep, seen) ← walkWith depth seen j
    walkItems depth (max deepest deep) seen rest

/-- Walks members at a depth. -/
def walkMembers (depth deepest seen : Nat) : List (String × Json) → m (Nat × Nat)
  | [] => pure (deepest, seen)
  | (_, j) :: rest => do
    let (deep, seen) ← walkWith depth seen j
    walkMembers depth (max deepest deep) seen rest

end

end

/-- Walks a value at a depth and counts the values. -/
def walk (limits : Limits) : Nat → Nat → Json → Except Fault (Nat × Nat) := walkWith limits.enter

/-- Does a canonical tree keep the limits? -/
def check (limits : Limits) (input : Json) : Except Fault Unit :=
  (limits.walk 1 0 input).map fun _ => ()

end Limits

end Conform
