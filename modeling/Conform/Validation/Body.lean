/-
**Bodies of requests.**

A handler may require a body, forbid it, leave it open, or have it validated; a missing body is
validated like null.

Main definitions:

* `BodyRule` — the four expectations;
* `BodyRule.apply` — the body that a handler gets, or a fault.
-/

import Conform.Validation.Property

set_option relaxedAutoImplicit false
set_option autoImplicit false

namespace Conform

/-- What a handler expects of the body of a request. -/
inductive BodyRule (m : Type → Type) where
  | required
  | forbidden
  | optional
  | validated (validator : Validator m)

/-- The body that a handler gets for the body of a request. -/
def BodyRule.apply {m : Type → Type} [Monad m] (body : Option Value) :
    BodyRule m → Outcome m (Option Value)
  | required =>
    match body with
    | none => throw (Fault.bodyPolicy "request body is required")
    | some value => return some value
  | forbidden =>
    match body with
    | none => return none
    | some _ => throw (Fault.bodyPolicy "request body is not allowed")
  | optional => return body
  | validated validator => some <$> validator (body.getD .null)

end Conform
