/-
**Patterns and their matches.**

A pattern denotes the stretches of a text that it matches.  Besides characters, sequences, choices
and repetitions it has assertions, which match the empty stretch at places of a certain kind.  A
place is a *spot*: the character before it and the text behind it.

The search is for some match, not for the longest or the first, so it runs on sets of spots: from
all spots where a part may begin to all spots where it may end.  A repetition adds spots until there
are no new ones; there are no more than places in the text.

Main definitions:

* `Spot` — a place in a text;
* `Assertion`, `Assertion.holds` — conditions on a place;
* `Pattern`, `Pattern.run` — patterns, and the ends of the matches that begin at given spots;
* `Pattern.found` — is there a match anywhere in a text?
-/

import Conform.Text.CharSet

set_option relaxedAutoImplicit false
set_option autoImplicit false

namespace Conform

/-- A place in a text. -/
structure Spot where
  /-- the number of characters in front -/
  index : Nat
  /-- the character in front, absent at the beginning -/
  before : Option Char
  /-- the text behind -/
  rest : List Char
deriving DecidableEq

namespace Spot

/-- The beginning of a text. -/
def start (text : List Char) : Spot := ⟨0, none, text⟩

/-- The spot one character on, at the end none. -/
def next? (s : Spot) : Option (Char × Spot) :=
  match s.rest with
  | [] => none
  | c :: rest => some (c, ⟨s.index + 1, some c, rest⟩)

/-- All places of a text behind the `index` characters of which `before` is the last. -/
def allFrom (index : Nat) (before : Option Char) : List Char → List Spot
  | [] => [⟨index, before, []⟩]
  | c :: rest => ⟨index, before, c :: rest⟩ :: allFrom (index + 1) (some c) rest

/-- All places of a text. -/
def all (text : List Char) : List Spot := allFrom 0 none text

/-- Are two spots of one text the same place? -/
def same (a b : Spot) : Bool := a.index == b.index

end Spot

/-- A condition on a place in a text. -/
inductive Assertion where
  | textStart
  | textEnd
  | lineStart
  | lineEnd
  /-- the start of a line, where a return, a line feed, or both in this order end a line -/
  | anyLineStart
  /-- the end of such a line -/
  | anyLineEnd
  | wordBoundary (word : CharSet)
  | noWordBoundary (word : CharSet)
  | wordStart (word : CharSet)
  | wordEnd (word : CharSet)
  /-- no word character is in front -/
  | wordStartHalf (word : CharSet)
  /-- no word character is behind -/
  | wordEndHalf (word : CharSet)
deriving DecidableEq, Repr

namespace Assertion

/-- Is there a character, and does the set hold it? -/
def among (set : CharSet) : Option Char → Bool
  | none => false
  | some c => set.contains c.toNat

/-- Does the condition hold between two neighbours? -/
def between (before after : Option Char) : Assertion → Bool
  | textStart => before.isNone
  | textEnd => after.isNone
  | lineStart => before.isNone || before == some '\n'
  | lineEnd => after.isNone || after == some '\n'
  | anyLineStart => before.isNone || before == some '\n'
      || (before == some '\r' && after != some '\n')
  | anyLineEnd => after.isNone || after == some '\r'
      || (after == some '\n' && before != some '\r')
  | wordBoundary w => among w before != among w after
  | noWordBoundary w => among w before == among w after
  | wordStart w => !among w before && among w after
  | wordEnd w => among w before && !among w after
  | wordStartHalf w => !among w before
  | wordEndHalf w => !among w after

/-- Does the condition hold at a spot? -/
def holds (a : Assertion) (s : Spot) : Bool := a.between s.before s.rest.head?

end Assertion

/-- A pattern. -/
inductive Pattern where
  /-- the empty stretch -/
  | empty
  /-- one character of a set -/
  | one (set : CharSet)
  /-- the empty stretch at certain places -/
  | assertion (a : Assertion)
  | seq (a b : Pattern)
  | alt (a b : Pattern)
  /-- one match after another, at least `least` and, if there is a bound, at most `most` -/
  | repetition (a : Pattern) (least : Nat) (most : Option Nat)
deriving DecidableEq, Repr

namespace Pattern

/-- A set of spots joined to another; no place is listed twice. -/
def merge (xs ys : List Spot) : List Spot :=
  ys.foldl (fun all s => if all.any s.same then all else s :: all) xs

/-- The function applied a number of times. -/
def times (f : List Spot → List Spot) : Nat → List Spot → List Spot
  | 0, spots => spots
  | n + 1, spots => if spots.isEmpty then [] else times f n (f spots)

/-- The spots reached from `fresh` by at most `n` steps, and those already `reached`. -/
def upTo (f : List Spot → List Spot) : Nat → List Spot → List Spot → List Spot
  | 0, reached, _ => reached
  | n + 1, reached, fresh =>
    let next := (f fresh).filter fun s => !reached.any s.same
    if next.isEmpty then reached else upTo f n (merge reached next) next

/-- Where matches end that begin at one of the spots.  No text has more than `room` characters;
repeating a part more often than that only adds empty matches. -/
def run (room : Nat) : Pattern → List Spot → List Spot
  | empty, spots => spots
  | one set, spots => spots.filterMap fun s =>
      match s.next? with
      | none => none
      | some (c, next) => if set.contains c.toNat then some next else none
  | assertion a, spots => spots.filter a.holds
  | seq a b, spots => run room b (run room a spots)
  | alt a b, spots => merge (run room a spots) (run room b spots)
  | repetition a least most, spots =>
      let begun := times (run room a) (min least (room + 1)) spots
      let more := match most with
        | none => room + 1
        | some most => min (most - least) (room + 1)
      upTo (run room a) more begun begun

/-- Is there a match somewhere in the text? -/
def found (p : Pattern) (text : String) : Bool :=
  let cs := text.toList
  !(run cs.length p (Spot.all cs)).isEmpty

/-- Is there a match at the beginning of the text? -/
def begins (p : Pattern) (text : String) : Bool :=
  let cs := text.toList
  !(run cs.length p [Spot.start cs]).isEmpty

end Pattern

end Conform
