/-
**Providers and ranges.**

A provider gives a value when it is asked: always the same one, or the result of an action that runs
anew each time.  A range has a lower and an upper bound, both inclusive and both optional, each from
a provider.  The lower bound is asked first, and the upper one only if the lower one is kept, so it
shows how often a provider ran.  Two quantities need not be comparable; what is not comparable with a
bound does not keep it.

Main definitions:

* `Provider`, `Provider.resolve` — providers and their values;
* `Comparable` — quantities with a partial order, as a function;
* `Numeric` — integers and floats, compared with each other;
* `Range`, `Range.admits` — ranges and what they admit.
-/

import Conform.Binary64.Nearest
import Conform.Calendar.DateTime

set_option relaxedAutoImplicit false
set_option autoImplicit false

namespace Conform

/-! ### Providers -/

/-- Where a value comes from, in a monad `m`. -/
inductive Provider (m : Type → Type) (α : Type) where
  /-- always this value -/
  | literal (a : α)
  /-- what the action yields, each time anew -/
  | thunk (action : m α)

namespace Provider

variable {m : Type → Type} {α : Type}

/-- The value of a provider at this time. -/
def resolve [Monad m] : Provider m α → m α
  | literal a => pure a
  | thunk action => action

/-- Does the provider always give the same value? -/
def isLiteral : Provider m α → Bool
  | literal _ => true
  | thunk _ => false

end Provider

/-! ### Comparable quantities -/

/-- Quantities of which some pairs can be compared. -/
class Comparable (α : Type) where
  /-- the order of a pair, if it has one -/
  compare? : α → α → Option Ordering

/-- An integer or a float. -/
inductive Numeric where
  | int (n : Int64)
  | float (x : Binary64)
deriving DecidableEq

namespace Numeric

/-- The number as a float, rounded to nearest. -/
def toFloat : Numeric → Binary64
  | int n => Binary64.ofInt n.toInt
  | float x => x

/-- Two integers are compared exactly, any other pair as floats. -/
def compare? : Numeric → Numeric → Option Ordering
  | int a, int b => some (Ord.compare a.toInt b.toInt)
  | a, b => Binary64.compare? a.toFloat b.toFloat

/-- Are the two the same number of the same kind? -/
def same : Numeric → Numeric → Bool
  | int a, int b => a == b
  | float a, float b => Binary64.compare? a b == some .eq
  | _, _ => false

end Numeric

instance : Comparable Numeric := ⟨Numeric.compare?⟩

instance : Comparable Int64 := ⟨fun a b => some (Ord.compare a.toInt b.toInt)⟩

instance : Comparable Binary64 := ⟨Binary64.compare?⟩

instance : Comparable Nat := ⟨fun a b => some (Ord.compare a b)⟩

/-- Texts are compared by their code points. -/
instance : Comparable String := ⟨fun a b => some (Ord.compare a b)⟩

instance : Comparable Date := ⟨fun a b => some (a.compare b)⟩

instance : Comparable DateTime := ⟨fun a b => some (a.compare b)⟩

/-! ### Ranges -/

/-- A lower and an upper bound, both inclusive. -/
structure Range (m : Type → Type) (μ : Type) where
  min : Option (Provider m μ)
  max : Option (Provider m μ)

namespace Range

variable {m : Type → Type} {μ : Type}

/-- The range without bounds. -/
def unbounded : Range m μ := ⟨none, none⟩

/-- Is there no bound? -/
def isUnbounded (range : Range m μ) : Bool := range.min.isNone && range.max.isNone

/-- Does the quantity lie at or above the bound? -/
def atLeast [Comparable μ] (x bound : μ) : Bool :=
  match Comparable.compare? x bound with
  | some .gt | some .eq => true
  | _ => false

/-- Does the quantity lie at or below the bound? -/
def atMost [Comparable μ] (x bound : μ) : Bool :=
  match Comparable.compare? x bound with
  | some .lt | some .eq => true
  | _ => false

/-- Does a quantity keep one bound, if there is one?  The bound is asked once. -/
def keeps [Monad m] (test : μ → μ → Bool) (x : μ) : Option (Provider m μ) → m Bool
  | none => pure true
  | some bound => do return test x (← bound.resolve)

/-- Does the range admit a quantity?  Where there is none, no bound is asked. -/
def admits [Monad m] [Comparable μ] (range : Range m μ) : Option μ → m Bool
  | none => pure true
  | some x => do
    if ← keeps atLeast x range.min then keeps atMost x range.max else return false

end Range

end Conform
