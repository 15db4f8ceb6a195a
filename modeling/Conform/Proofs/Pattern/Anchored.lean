/-
**Patterns held to the beginning.**

A format's pattern is put into a group behind an assertion of the beginning, as a text.  This module
says when the format means what the pattern says on its own.

It does not where the pattern on its own has a closing parenthesis too many: `a)|(?:b` is no pattern,
but its first parenthesis closes the group that the format opens, and the format is a choice of which
the second branch is not held to the beginning.  For all other texts the argument is this.  The
pattern is read in the same way with the parenthesis behind it.  So a text that is no pattern gives no
format.  A text that is a pattern gives one, unless a comment at its end takes the parenthesis or the
group goes beyond the limits of nesting or size; and then the format is found in a text if the pattern
matches at its beginning.

Main definitions:

* `Pattern.ReadAlike` — readers of pieces that read alike with the parenthesis and without;
* `Pattern.Reads` — a text is read to its end as a piece;
* `Pattern.Encloses` — the piece may stand in the group of a format.

Main results:

* `Pattern.carries_readPieces` — **a pattern is read in the same way with a parenthesis behind it**;
* `Format.read_of_fault`, `Format.read_eq_ok_iff` — which texts give formats, and which formats;
* `Format.admits_anchored` — an anchored pattern is found where the pattern begins;
* `Format.compile_anchored` — **formats mean what their patterns say**, if no parenthesis is too
  many;
* `Format.compile_unopened` — a format whose second branch is not held to the beginning.
-/

import Conform.Proofs.Pattern.Items
import Conform.Proofs.Pattern.Matches
import Conform.Validation.Format

set_option relaxedAutoImplicit false
set_option autoImplicit false

namespace Conform

namespace Pattern

variable {marked : Bool} {n m : Nat} {a b : List Char} {mode : Mode}

/-! ### Groups -/

theorem carries_readSwitches (h : Follows marked n m a b) (seen : List Switch)
    (negated dangling : Bool) :
    Carries (Agree marked n m) (fun y => Ended y.2)
      (readSwitches mode seen negated dangling a) (readSwitches mode seen negated dangling b) := by
  induction h generalizing mode seen negated dangling with
  | done => exact .fault
  | mark h =>
      rw [readSwitches, readSwitches, if_pos (.inr rfl)]
      split
      · exact .fault
      · split
        · exact .fault
        · exact .spent rfl
  | next c h ih =>
      rw [readSwitches, readSwitches]
      refine .ite (fun _ => .ite (fun _ => .fault) fun _ => .ite (fun _ => .fault) fun _ => ?_)
        fun _ => .ite (fun _ => .ite (fun _ => .fault) fun _ => ?_) fun _ => ?_
      · exact .same ⟨rfl, rfl, h.succ⟩
      · exact (ih _ _ _).succ
      · split
        · exact .fault
        · refine .ite (fun _ => .fault) fun _ => ?_
          exact (ih _ _ _).succ

theorem keeps_readName (h : Follows marked n m a b) (first : Bool) :
    Keeps marked n m (readName first a) (readName first b) := by
  induction h generalizing first with
  | done => exact .fault
  | mark h =>
      -- whether or not a parenthesis may stand in a name, nothing ends the name behind it
      rw [readName, readName, if_neg (by decide)]
      split
      · exact .fault
      · exact .fault
  | next c h ih =>
      rw [readName, readName]
      refine .ite (fun _ => .same ⟨rfl, h.succ⟩) fun _ => .ite (fun _ => ?_) fun _ => .fault
      refine (ih false).bind_kept ?_
      rintro ⟨name, a⟩ ⟨_, b⟩ ⟨rfl, h⟩
      exact .same ⟨rfl, h.succ⟩

theorem keeps_readNamedGroup (h : Follows marked n m a b) :
    Keeps marked n m (readNamedGroup mode a) (readNamedGroup mode b) := by
  refine (keeps_readName h true).bind_kept ?_
  rintro ⟨name, a⟩ ⟨_, b⟩ ⟨rfl, h⟩
  exact .ite (fun _ => .fault) fun _ => .same ⟨rfl, h⟩

theorem takes_readTurned (h : Follows marked n m a b) :
    Takes marked n m (readTurned mode a) (readTurned mode b) := by
  refine (carries_readSwitches h [] false false).bind ?_ ?_
  · rintro ⟨inner, mark, a⟩ ⟨_, _, b⟩ ⟨rfl, rfl, h⟩
    exact .same ⟨rfl, h⟩
  · rintro ⟨inner, mark, rest⟩ fault h
    exact .spent h

theorem takes_readExtension (h : Follows marked n m a b) :
    Takes marked n m (readExtension mode a) (readExtension mode b) := by
  cases h with
  | done => exact .fault
  | mark h => exact .fault
  | @next n m a b c h =>
      have hlook : (a.head? = some '=' ∨ a.head? = some '!') ↔
          (b.head? = some '=' ∨ b.head? = some '!') :=
        or_congr (h.head?_eq_some (by decide)) (h.head?_eq_some (by decide))
      have hnamed : (c = 'P' ∧ a.head? = some '<') ↔ (c = 'P' ∧ b.head? = some '<') :=
        and_congr_right fun _ => h.head?_eq_some (by decide)
      rw [readExtension, readExtension]
      refine .ite (fun _ => .fault) fun _ => .ite (fun _ => .ite_congr hlook (fun _ => .fault)
        fun _ => ?angle) fun _ => .ite_congr hnamed (fun _ => ?named) fun _ => ?turned
      case angle => exact (keeps_readNamedGroup h.succ).takes
      case named => exact (keeps_readNamedGroup h.tail.succ).takes
      case turned => exact takes_readTurned (h.next c)

theorem takes_readOpening (h : Follows marked n m a b) :
    Takes marked n m (readOpening mode a) (readOpening mode b) := by
  replace h := h.skip mode
  rw [readOpening, readOpening]
  generalize mode.skip a = a, mode.skip b = b at h
  cases h with
  | done => exact .same ⟨rfl, .done⟩
  | mark h => exact .same ⟨rfl, .mark h⟩
  | next c h =>
      by_cases hc : c = '?'
      · subst hc
        exact (takes_readExtension h).mono (fun _ _ h => h.succ) fun _ => id
      · simp only [List.cons.injEq, hc, false_and, imp_false, not_false_eq_true, implies_true]
        exact .same ⟨rfl, h.next c⟩

theorem closeGroup_follows (h : Follows marked n m a b) :
    Carries (Follows marked n m) (· = []) (closeGroup a) (closeGroup b) := by
  cases h with
  | done => exact .fault
  | mark h => exact .spent rfl
  | next c h =>
      by_cases hc : c = ')'
      · subst hc
        exact .same h.succ
      · have hfault : ∀ rest, closeGroup (c :: rest) = .error .groupUnclosed := by
          simp [closeGroup, hc]
        rw [hfault, hfault]
        exact .fault

theorem carries_readAtom (h : Follows marked n m a b) (c : Char) :
    Carries (Alike marked n m)
      (fun y => y.2 = [] ∨ ∃ more, y.2 = '{' :: more ∧ mode.skip more = [')'])
      (readAtom mode c a) (readAtom mode c b) := by
  have hplain : ∀ p : Pattern, Carries (Alike marked n m)
      (fun y => y.2 = [] ∨ ∃ more, y.2 = '{' :: more ∧ mode.skip more = [')'])
      (.ok (p, a)) (.ok (p, b)) := fun p => .same ⟨rfl, h⟩
  rw [readAtom, readAtom]
  refine .ite (fun _ => ?_) fun _ => .ite (fun _ => .bind_same _ fun _ => hplain _) fun _ =>
    .ite (fun _ => hplain _) fun _ => .ite (fun _ => hplain _) fun _ => hplain _
  refine (carries_readEscape h).bind ?_ ?_
  · rintro ⟨escape, a⟩ ⟨_, b⟩ ⟨rfl, h⟩
    exact .same ⟨rfl, h⟩
  · rintro ⟨escape, rest⟩ fault hspent
    rcases hspent with hrest | ⟨-, more, -, hrest, hskip⟩
    · exact .spent (.inl hrest)
    · exact .spent (.inr ⟨more, hrest, hskip⟩)

/-! ### Pieces -/

variable {names : List (List Char)} {branches pieces : List Piece}

/-- Two readers of pieces that read alike, and of which the second reads nothing where nothing is
left. -/
structure ReadAlike (marked : Bool) (n m : Nat) (again again' : PieceReader) : Prop where
  carries {a b : List Char} (h : Follows marked n m a b) {mode : Mode} {names : List (List Char)}
    {branches pieces : List Piece} : Carries (Agree marked n m) (fun y => Ended y.2)
      (again mode names branches pieces a) (again' mode names branches pieces b)
  ended {mode : Mode} {names : List (List Char)} {branches pieces : List Piece}
    {x : Piece × List (List Char) × List Char} (h : again' mode names branches pieces [] = .ok x) :
    Ended x.2

theorem ReadAlike.spent {again again' : PieceReader} (h : ReadAlike marked n m again again')
    {fault : PatternFault} : Carries (Agree marked n m) (fun y => Ended y.2) (.error fault)
      (again' mode names branches pieces []) :=
  .of_spent fun _ => h.ended

/-- A group is read alike if what stands in it and behind it is. -/
theorem carries_readGroup {again again' : PieceReader} (hagain : ReadAlike marked n m again again')
    (h : Follows marked n m a b) :
    Carries (Agree marked n m) (fun y => Ended y.2)
      (readGroup again mode names branches pieces a)
      (readGroup again' mode names branches pieces b) := by
  refine (takes_readOpening h).bind ?_ ?_
  · rintro ⟨opening, a⟩ ⟨_, b⟩ ⟨rfl, h⟩
    cases opening with
    | switches inner => exact hagain.carries h
    | group inner name =>
        refine .bind_same _ fun names => (hagain.carries h).bind ?_ ?_
        · rintro ⟨piece, names, a⟩ ⟨_, _, b⟩ ⟨rfl, rfl, h⟩
          refine (closeGroup_follows h).bind (fun a b h => hagain.carries h) ?_
          rintro _ fault rfl
          exact hagain.spent
        · rintro ⟨piece, names, _⟩ fault rfl
          exact .fault
  · rintro ⟨opening, _⟩ fault rfl
    cases opening with
    | switches inner => exact hagain.spent
    | group inner name =>
        -- the group is not closed where nothing is left
        refine .of_error fun names _ => .of_error ?_
        rintro ⟨piece, names, rest⟩ hpiece
        obtain rfl : rest = [] := hagain.ended hpiece
        exact .fault

theorem ended_of_readPieces_nil {fuel : Nat} {x : Piece × List (List Char) × List Char}
    (h : readPieces fuel mode names branches pieces [] = .ok x) : Ended x.2 := by
  cases fuel with
  | zero => cases h
  | succ fuel =>
      rw [readPieces, Mode.skip_nil] at h
      cases h
      rfl

/-- No bounds begin with the parenthesis. -/
theorem carries_of_stuck {Same : Piece × List (List Char) × List Char →
      Piece × List (List Char) × List Char → Prop}
    {Spent : Piece × List (List Char) × List Char → Prop} {fault : PatternFault}
    {more : List Char} (h : mode.skip more = [')']) (fuel : Nat) :
    Carries Same Spent (.error fault)
      (readPieces fuel mode names branches pieces ('{' :: more)) := by
  cases fuel with
  | zero => exact .fault
  | succ fuel =>
      rw [readPieces, Mode.skip_brace]
      change Carries Same Spent _ (readCounts mode more >>= fun x => _)
      rw [readCounts, h]
      exact .fault

/-- **A pattern is read in the same way with a parenthesis behind it**; where it is not, there was a
fault, and with the parenthesis nothing is left. -/
theorem carries_readPieces {fuel fuel' : Nat} (h : Follows marked n m a b) (hn : n < fuel)
    (hm : m < fuel') :
    Carries (Agree marked n m) (fun y => Ended y.2)
      (readPieces fuel mode names branches pieces a)
      (readPieces fuel' mode names branches pieces b) := by
  induction fuel generalizing fuel' n m a b mode names branches pieces with
  | zero => omega
  | succ fuel ih =>
      cases fuel' with
      | zero => omega
      | succ fuel' =>
          replace h := h.skip mode
          rw [readPieces, readPieces]
          generalize mode.skip a = a, mode.skip b = b at h
          cases h with
          | done => exact .same ⟨rfl, rfl, .done⟩
          | mark h => exact .same ⟨rfl, rfl, .mark h⟩
          | @next n m a b c h =>
              -- what follows is read with less fuel, and there is less text
              have hagain : ReadAlike marked n m (readPieces fuel) (readPieces fuel') :=
                ⟨fun h => ih h (Nat.lt_of_succ_lt_succ hn) (Nat.lt_of_succ_lt_succ hm),
                  ended_of_readPieces_nil⟩
              by_cases hclose : c = ')'
              · subst hclose
                exact .same ⟨rfl, rfl, h.next _⟩
              refine Carries.succ ?_
              by_cases hbar : c = '|'
              · subst hbar
                exact hagain.carries h
              by_cases hopen : c = '('
              · subst hopen
                exact carries_readGroup hagain h
              by_cases hset : c = '['
              · subst hset
                refine (carries_openSet h).bind ?_ ?_
                · rintro ⟨negated, items, a⟩ ⟨_, _, b⟩ ⟨rfl, rfl, h⟩
                  refine (keeps_setItems h negated items).bind_kept ?_
                  rintro ⟨part, a⟩ ⟨_, b⟩ ⟨rfl, h⟩
                  exact hagain.carries h
                · rintro ⟨negated, items, rest⟩ fault hrest
                  dsimp only
                  rw [readSetItems_of_unclosed hrest]
                  exact .fault
              by_cases hbrace : c = '{'
              · subst hbrace
                refine (carries_readCounts h).bind_kept ?_
                rintro ⟨least, most, a⟩ ⟨_, _, b⟩ ⟨rfl, rfl, h⟩
                exact .bind_same _ fun pieces => hagain.carries h
              simp only []
              split
              · exact .bind_same _ fun pieces => hagain.carries (skipReluctance_follows h)
              · refine (carries_readAtom h c).bind ?_ ?_
                · rintro ⟨pattern, a⟩ ⟨_, b⟩ ⟨rfl, h⟩
                  exact hagain.carries h
                · rintro ⟨pattern, _⟩ fault (rfl | ⟨more, rfl, hskip⟩)
                  · exact hagain.spent
                  · exact carries_of_stuck hskip fuel'

/-! ### Whole patterns -/

/-- Enough fuel is as good as any. -/
theorem readPieces_of_readPieces {fuel fuel' : Nat} {x : Piece × List (List Char) × List Char}
    (h : readPieces fuel mode names branches pieces a = .ok x) (hfuel : a.length < fuel)
    (hfuel' : a.length < fuel') : readPieces fuel' mode names branches pieces a = .ok x := by
  have hcarries : Carries (Agree false a.length a.length) (fun y => Ended y.2)
      (readPieces fuel mode names branches pieces a)
      (readPieces fuel' mode names branches pieces a) :=
    carries_readPieces (.refl a) hfuel hfuel'
  rw [h] at hcarries
  obtain ⟨piece, names', rest⟩ := x
  obtain ⟨⟨_, _, rest'⟩, hread, rfl, rfl, hrest⟩ := hcarries.exists_of_ok
  obtain rfl : rest = rest' := hrest.eq_of_unmarked
  exact hread

/-- The text is read to its end as a piece. -/
def Reads (text : List Char) (piece : Piece) : Prop :=
  ∃ names, readPieces (text.length + 1) Mode.initial [] [] [] text = .ok (piece, names, [])

/-- A text is read to its end, or there is a parenthesis too many, or there is another fault. -/
theorem reads_cases (text : String) :
    (∃ piece, Reads text.toList piece) ∨ read text = .error .groupUnopened ∨
      ∃ fault, readPieces (text.toList.length + 1) Mode.initial [] [] [] text.toList =
        .error fault := by
  rw [read]
  cases hread : readPieces (text.toList.length + 1) Mode.initial [] [] [] text.toList with
  | error fault => exact .inr (.inr ⟨fault, rfl⟩)
  | ok x =>
      obtain ⟨piece, names, rest⟩ := x
      cases rest with
      | nil => exact .inl ⟨piece, names, hread⟩
      | cons c rest => exact .inr (.inl rfl)

theorem read_of_reads {text : String} {piece : Piece} (h : Reads text.toList piece) :
    read text = if piece.height > nestingLimit then .error .nestedTooDeep
      else if footprint piece.pattern > sizeLimit then .error .tooLarge
      else .ok piece.pattern := by
  obtain ⟨names, h⟩ := h
  rw [read]
  dsimp only
  rw [h]
  rfl

/-- The group that a format opens, and what it reads behind the group. -/
theorem readPieces_anchored (fuel : Nat) (text : List Char) :
    readPieces (fuel + 2) Mode.initial [] [] [] ('\\' :: 'A' :: '(' :: '?' :: ':' :: text) = (do
      let (piece, names, rest) ← readPieces fuel Mode.initial [] [] [] text
      let rest ← closeGroup rest
      readPieces fuel Mode.initial names []
        [⟨piece.pattern, piece.height + 1, true⟩, ⟨.assertion .textStart, 0, true⟩] rest) := rfl

theorem toList_anchored (text : String) : (Format.anchored text).toList =
    '\\' :: 'A' :: '(' :: '?' :: ':' :: (text.toList ++ [')']) := by
  rw [Format.anchored, String.toList_append, String.toList_append]
  rfl

theorem toList_closed (text : String) : (text ++ ")").toList = text.toList ++ [')'] := by
  rw [String.toList_append]
  rfl

/-- How a text that is read to its end is read with a parenthesis behind it, and that this is the
same for the text with the parenthesis and for the group of a format. -/
theorem Reads.closed {text : List Char} {piece : Piece} (h : Reads text piece) :
    ∃ names rest, (rest = [] ∨ rest = [')']) ∧ ∀ fuel, text.length + 1 < fuel →
      readPieces fuel Mode.initial [] [] [] (text ++ [')']) = .ok (piece, names, rest) := by
  obtain ⟨names, h⟩ := h
  have hlength : (text ++ [')']).length = text.length + 1 := by simp
  have hcarries : Carries (Agree true text.length (text.length + 1)) (fun y => Ended y.2)
      (readPieces (text.length + 1) Mode.initial [] [] [] text)
      (readPieces (text.length + 2) Mode.initial [] [] [] (text ++ [')'])) :=
    carries_readPieces (.append text) (Nat.lt_succ_self _) (Nat.lt_succ_self _)
  rw [h] at hcarries
  obtain ⟨⟨_, _, rest⟩, hread, rfl, rfl, hrest⟩ := hcarries.exists_of_ok
  refine ⟨names, rest, hrest.eq_nil_or_mark, fun fuel hfuel => ?_⟩
  exact readPieces_of_readPieces hread (by omega) (by omega)

/-- The text is read to its end as a piece that may stand in the group of a format: the group leaves
it within the limits, and the closing parenthesis behind it is one too many for the text, and not the
end of a comment.  The size is the one that `footprint` estimates. -/
structure Encloses (text : String) (piece : Piece) : Prop where
  reads : Reads text.toList piece
  height : piece.height + 2 ≤ nestingLimit
  size : footprint piece.pattern + 32 ≤ sizeLimit
  closed : read (text ++ ")") = .error .groupUnopened

theorem Encloses.read {text : String} {piece : Piece} (h : Encloses text piece) :
    Pattern.read text = .ok piece.pattern := by
  have hheight := h.height
  have hsize := h.size
  rw [read_of_reads h.reads, if_neg (by omega), if_neg (by omega)]

/-- A parenthesis behind the text is one too many unless a comment takes it. -/
theorem read_closed_iff {text : String} {piece : Piece} {names : List (List Char)} {rest : List Char}
    (h : readPieces (text.toList.length + 2) Mode.initial [] [] [] (text.toList ++ [')']) =
      .ok (piece, names, rest)) :
    Pattern.read (text ++ ")") = .error .groupUnopened ↔ rest ≠ [] := by
  have hlength : (text ++ ")").toList.length + 1 = text.toList.length + 2 := by simp
  rw [Pattern.read]
  dsimp only
  rw [hlength, toList_closed, h]
  change (if rest ≠ [] then _ else _) = _ ↔ _
  split
  · next hrest => exact ⟨fun _ => hrest, fun _ => rfl⟩
  · next hrest =>
      refine ⟨fun hread => ?_, fun hne => absurd hne hrest⟩
      split at hread
      · cases hread
      · split at hread
        · cases hread
        · cases hread

end Pattern

/-! ### Formats -/

namespace Format

open Pattern

/-- The pattern of a format, by what is read in its group. -/
theorem read_anchored (text : String) : Pattern.read (anchored text) = (do
    let (piece, _, rest) ← (do
      let (piece, names, rest) ←
        readPieces (text.toList.length + 5) Mode.initial [] [] [] (text.toList ++ [')'])
      let rest ← closeGroup rest
      readPieces (text.toList.length + 5) Mode.initial names []
        [⟨piece.pattern, piece.height + 1, true⟩, ⟨.assertion .textStart, 0, true⟩] rest)
    if rest ≠ [] then .error .groupUnopened
    else if piece.height > nestingLimit then .error .nestedTooDeep
    else if footprint piece.pattern > sizeLimit then .error .tooLarge
    else .ok piece.pattern) := by
  have hlength : (anchored text).toList.length + 1 = text.toList.length + 5 + 2 := by
    rw [toList_anchored]
    simp
  rw [Pattern.read]
  dsimp only
  rw [hlength, toList_anchored, readPieces_anchored]

/-- A text that is no pattern gives no format, unless it has a parenthesis too many. -/
theorem read_of_fault {text : String} {fault : PatternFault}
    (h : readPieces (text.toList.length + 1) Mode.initial [] [] [] text.toList = .error fault) :
    ∃ fault', Format.read text = .error fault' := by
  have hcarries : Carries (Agree true _ _) (fun y => Ended y.2)
      (readPieces (text.toList.length + 1) Mode.initial [] [] [] text.toList)
      (readPieces (text.toList.length + 5) Mode.initial [] [] [] (text.toList ++ [')'])) :=
    carries_readPieces (.append text.toList) (by omega) (by omega)
  rw [h] at hcarries
  rw [Format.read, read_anchored]
  cases hread : readPieces (text.toList.length + 5) Mode.initial [] [] []
      (text.toList ++ [')']) with
  | error fault' => exact ⟨fault', rfl⟩
  | ok y =>
      -- the parenthesis has been taken, and nothing closes the group
      obtain ⟨piece, names, rest⟩ := y
      obtain rfl : rest = [] := hcarries.spent_of_error hread
      exact ⟨.groupUnclosed, rfl⟩

/-- A text that is read to its end gives a format if a group may enclose it. -/
theorem read_eq_ok_iff {text : String} {piece : Piece} (h : Reads text.toList piece)
    {format : Format} : Format.read text = .ok format ↔
      Encloses text piece ∧ format = ⟨text, .seq (.assertion .textStart) piece.pattern⟩ := by
  obtain ⟨names, rest, hrest, hread⟩ := h.closed
  have hclosed := read_closed_iff (hread _ (Nat.lt_succ_self _))
  rw [Format.read, read_anchored, hread _ (by omega)]
  rcases hrest with rfl | rfl
  · -- a comment takes the parenthesis
    constructor
    · intro hformat
      cases hformat
    · rintro ⟨hencloses, -⟩
      exact absurd rfl (hclosed.1 hencloses.closed)
  · change Except.map _ (if max (piece.height + 1) 0 + 1 > nestingLimit then _ else
      if 32 + footprint piece.pattern > sizeLimit then _ else _) = _ ↔ _
    split
    · next hheight =>
        refine ⟨fun hformat => ?_, fun ⟨hencloses, _⟩ => ?_⟩
        · cases hformat
        · have hle := hencloses.height
          omega
    · split
      · next hsize =>
          refine ⟨fun hformat => ?_, fun ⟨hencloses, _⟩ => ?_⟩
          · cases hformat
          · have hle := hencloses.size
            omega
      · next hheight hsize =>
          constructor
          · intro hformat
            cases hformat
            exact ⟨⟨h, by omega, by omega, hclosed.2 (List.cons_ne_nil _ _)⟩, rfl⟩
          · rintro ⟨-, rfl⟩
            rfl

/-- An anchored pattern is found where the pattern begins. -/
theorem admits_anchored {pattern : Pattern} (text given : String) :
    (⟨text, .seq (.assertion .textStart) pattern⟩ : Format).admits given =
      pattern.begins given := by
  rw [Bool.eq_iff_iff, admits, found_iff, begins_iff]
  constructor
  · rintro ⟨s, hs, t, _, ⟨hstart, rfl⟩, ht⟩
    -- the search begins anywhere, but only one spot has nothing in front
    have hbefore : s.before = none := by
      simpa [Assertion.holds, Assertion.between] using hstart
    obtain rfl := (Spot.before_eq_none hs).1 hbefore
    exact ⟨t, ht⟩
  · rintro ⟨t, ht⟩
    exact ⟨_, Spot.start_mem_all, t, _, ⟨rfl, rfl⟩, ht⟩

theorem compile_eq_ok_iff {text : String} {format : Format} :
    compile text = .ok format ↔ Format.read text = .ok format := by
  rw [compile]
  cases Format.read text with
  | error fault =>
      constructor
      · rintro ⟨⟩
      · rintro ⟨⟩
  | ok format' =>
      constructor
      · rintro ⟨⟩
        rfl
      · rintro ⟨⟩
        rfl

/-- **Formats mean what their patterns say.**  A text with no closing parenthesis too many gives a
format exactly if it is a pattern that a group may enclose; the format admits the texts at whose
beginning the pattern has a match.  Which texts are patterns is told by `Pattern.read`: it knows some
properties of characters only, and estimates how great the compiled form is. -/
theorem compile_anchored {text : String} (hopen : Pattern.read text ≠ .error .groupUnopened) :
    ((∃ format, compile text = .ok format) ↔ ∃ piece, Encloses text piece) ∧
      ∀ format, compile text = .ok format → ∃ pattern, Pattern.read text = .ok pattern ∧
        ∀ given, format.admits given = pattern.begins given := by
  simp only [compile_eq_ok_iff]
  rcases reads_cases text with ⟨piece, hpiece⟩ | hunopened | ⟨fault, hfault⟩
  · refine ⟨⟨?_, ?_⟩, ?_⟩
    · rintro ⟨format, hformat⟩
      exact ⟨piece, ((read_eq_ok_iff hpiece).1 hformat).1⟩
    · rintro ⟨piece, hencloses⟩
      exact ⟨_, (read_eq_ok_iff hencloses.reads).2 ⟨hencloses, rfl⟩⟩
    · intro format hformat
      obtain ⟨hencloses, rfl⟩ := (read_eq_ok_iff hpiece).1 hformat
      exact ⟨piece.pattern, hencloses.read, admits_anchored text⟩
  · exact absurd hunopened hopen
  · obtain ⟨fault', hformat⟩ := read_of_fault hfault
    refine ⟨⟨?_, ?_⟩, ?_⟩
    · rintro ⟨format, hok⟩
      cases hformat.symm.trans hok
    · rintro ⟨piece, ⟨names, hreads⟩, -⟩
      cases hfault.symm.trans hreads
    · intro format hok
      cases hformat.symm.trans hok

/-- A choice of two characters is anchored as a whole. -/
theorem compile_anchored_choice :
    Pattern.read "a|b" ≠ .error .groupUnopened ∧
      ∃ format, compile "a|b" = .ok format ∧ format.admits "bc" = true ∧
        format.admits "cb" = false := by
  have hopen : Pattern.read "a|b" ≠ .error .groupUnopened := by decide +kernel
  obtain ⟨hsucceeds, hmeans⟩ := compile_anchored hopen
  have hencloses : Encloses "a|b" ⟨.alt (.one (.single 'a')) (.one (.single 'b')), 1, true⟩ :=
    ⟨⟨[], rfl⟩, by decide, by decide, by decide +kernel⟩
  obtain ⟨format, hformat⟩ := hsucceeds.2 ⟨_, hencloses⟩
  obtain ⟨pattern, hpattern, hadmits⟩ := hmeans format hformat
  cases hencloses.read.symm.trans hpattern
  exact ⟨hopen, format, hformat, (hadmits _).trans (by decide +kernel),
    (hadmits _).trans (by decide +kernel)⟩

/-- A parenthesis too many closes the group of the format: what stands behind it is not held to the
beginning. -/
theorem compile_unopened :
    Pattern.read "a)|(?:b" = .error .groupUnopened ∧
      ∃ format, compile "a)|(?:b" = .ok format ∧ format.admits "xb" = true :=
  ⟨by decide +kernel, ⟨"a)|(?:b", .alt (.seq (.assertion .textStart) (.one (.single 'a')))
    (.one (.single 'b'))⟩, by decide +kernel, by decide +kernel⟩

end Format

end Conform
