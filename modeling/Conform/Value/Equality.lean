/-
**Equality of values.**

Two values are *equal* if they stand for the same datum.  Integers and floats are compared as
numbers, through floats unless both are integers; instants are compared without their offsets; arrays
item by item, objects name by name.  Otherwise the kinds have to agree.  This is not equality of the
values themselves: `1` equals `1.0`, and a NaN equals nothing.

Main definitions:

* `Value.equal` — equality of values.
-/

import Conform.Value.Basic

set_option relaxedAutoImplicit false
set_option autoImplicit false

namespace Conform

namespace Value

mutual

/-- Do two values stand for the same datum? -/
def equal : Value → Value → Bool
  | null, null => true
  | bool a, bool b => a = b
  | int a, int b => a = b
  | int a, float y => (Binary64.ofInt a.toInt).same y
  | float x, int b => x.same (Binary64.ofInt b.toInt)
  | float x, float y => x.same y
  | string a, string b => a = b
  | date a, date b => a = b
  | datetime a, datetime b => a.simultaneous b
  | array as, array bs => equalItems as bs
  | object as, object bs => equalMembers as bs
  | _, _ => false

/-- Are two lists of items equal item by item? -/
def equalItems : List Value → List Value → Bool
  | [], [] => true
  | a :: as, b :: bs => equal a b && equalItems as bs
  | _, _ => false

/-- Are two lists of members equal member by member? -/
def equalMembers : List (String × Value) → List (String × Value) → Bool
  | [], [] => true
  | (k, a) :: as, (l, b) :: bs => k = l && equal a b && equalMembers as bs
  | _, _ => false

end

end Value

end Conform
