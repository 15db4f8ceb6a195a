/-
**Settings of scalars.**

A scalar is made from the one of its kind that is nullable and has neither bounds nor format, by one
setting after the other.  Where a thing is set again, the last setting counts.

Main definitions:

* `Scalar.Setting`, `Scalar.set` — what can be set of a scalar, and setting it;
* `Scalar.adjust` — a scalar after some settings;
* `Scalar.regex`, `Scalar.email`, `Scalar.uuid` — texts with a format.
-/

import Conform.Validation.Scalar

set_option relaxedAutoImplicit false
set_option autoImplicit false

namespace Conform

namespace Scalar

/-- What can be set of a scalar. -/
inductive Setting (m : Type → Type) (μ : Type) where
  /-- the lower bound -/
  | min (bound : Provider m μ)
  /-- the upper bound -/
  | max (bound : Provider m μ)
  | format (format : Format)
  /-- do texts lose their hyphens behind the format? -/
  | stripHyphens (strip : Bool)
  | nullable (nullable : Bool)
  /-- what stands in for null -/
  | default (value : Provider m Value)
  /-- what changes a validated value -/
  | callback (callback : Value → Value)

variable {m : Type → Type} {μ : Type}

/-- The scalar after a setting. -/
def set (scalar : Scalar m μ) : Setting m μ → Scalar m μ
  | .min bound => { scalar with range := { scalar.range with min := some bound } }
  | .max bound => { scalar with range := { scalar.range with max := some bound } }
  | .format format => { scalar with format := some format }
  | .stripHyphens strip => { scalar with stripHyphens := strip }
  | .nullable nullable => { scalar with property := { scalar.property with nullable := nullable } }
  | .default value => { scalar with property := { scalar.property with default := some value } }
  | .callback callback =>
    { scalar with property := { scalar.property with callback := some callback } }

/-- The scalar after some settings, the first of them made first. -/
def adjust (scalar : Scalar m μ) (settings : List (Setting m μ)) : Scalar m μ :=
  settings.foldl set scalar

/-- Texts that match a pattern from their beginning; a text that is no pattern is a fault. -/
def regex (pattern : String) : Except Fault (Scalar m Nat) :=
  (Format.compile pattern).map fun format => (of .text).set (.format format)

/-- Texts that have the shape of a mail address. -/
def email : Scalar m Nat := (of .text).set (.format .email)

/-- Texts that are universally unique identifiers. -/
def uuid : Scalar m Nat := (of .text).set (.format .uuid)

end Scalar

end Conform
