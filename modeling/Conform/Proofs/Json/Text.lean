/-
**Documents are read as they are written.**

The text of a document is read part by part.  A string is escaped so that its quote comes last, and a
character behind a backslash stands for one character only.  Items and members stand in rows between
blanks, with a comma behind each but the last; what stands behind a value never continues it.

The reader takes texts that are nested no deeper than its limit.  So all this holds of legible
documents, that is, of those that can be read at all.

Main definitions:

* `Json.toSource` — the document as it is written;
* `Source.ReadsText` — a reader takes exactly a given text, whatever stands behind it;
* `Source.rows` — texts between blanks, with commas between them;
* `Json.Layout` — ways to write documents out, of which the compact and the indented one are two.

Main results:

* `Source.stringBody_escaped` — **a string is read as it is written**;
* `Source.elements_rows`, `Source.enclosed_rows` — so are rows, if each of their texts is;
* `Source.readsText_layout` — so is a document in any layout;
* `Json.source_compact` — **a compact document is read as it is written**;
* `Json.read?_indented`, `Json.readRecord?_indented` — **a legible document is read as it is written**.
-/

import Conform.Proofs.Json.Finite
import Conform.Proofs.Json.Numeral

set_option relaxedAutoImplicit false
set_option autoImplicit false

namespace Conform

open Json (escaped hexDigit)

namespace Source

/-! ### Strings -/

/-- A character that stands for another one behind a backslash is read as this one. -/
theorem stringUnits_short {x c : Char} (hx : unescape? x = some c) (s : List Char) :
    stringUnits ('\\' :: x :: s) = (stringUnits s).map fun (us, rest) => (c.toNat :: us, rest) := by
  have hu : x ≠ 'u' := by
    rintro rfl
    cases hx
  cases hs : stringUnits s <;> simp [stringUnits, hu, hx, hs]

/-- Four digits behind a backslash are read as the control that they denote. -/
theorem stringUnits_control {n : ℕ} (h : n < 0x20) (s : List Char) :
    stringUnits ('\\' :: 'u' :: '0' :: '0' :: hexDigit (n / 16) :: hexDigit (n % 16) :: s) =
      (stringUnits s).map fun (us, rest) => (n :: us, rest) := by
  have hunit : hexValue4? '0' '0' (hexDigit (n / 16)) (hexDigit (n % 16)) = some n := by
    interval_cases n <;> rfl
  cases hs : stringUnits s <;> simp [stringUnits, hunit, hs]

/-- Any other character stands for itself. -/
theorem stringUnits_self {c : Char} (hquote : c ≠ '"') (hslash : c ≠ '\\') (hcontrol : ¬ c.toNat < 0x20)
    (s : List Char) :
    stringUnits (c :: s) = (stringUnits s).map fun (us, rest) => (c.toNat :: us, rest) := by
  rw [stringUnits.eq_def]
  cases hs : stringUnits s <;> simp [hquote, hslash, hcontrol, hs]

/-- A character is read as its code point, in whatever way it is written. -/
theorem stringUnits_escaped (c : Char) (s : List Char) :
    stringUnits (escaped c ++ s) = (stringUnits s).map fun (us, rest) => (c.toNat :: us, rest) := by
  by_cases hquote : c = '"'
  · subst hquote
    exact stringUnits_short rfl s
  by_cases hslash : c = '\\'
  · subst hslash
    exact stringUnits_short rfl s
  by_cases hb : c = '\x08'
  · subst hb
    exact stringUnits_short rfl s
  by_cases hf : c = '\x0c'
  · subst hf
    exact stringUnits_short rfl s
  by_cases hn : c = '\n'
  · subst hn
    exact stringUnits_short rfl s
  by_cases hr : c = '\r'
  · subst hr
    exact stringUnits_short rfl s
  by_cases ht : c = '\t'
  · subst ht
    exact stringUnits_short rfl s
  simp only [escaped, hquote, hslash, hb, hf, hn, hr, ht, if_false]
  by_cases hcontrol : c.toNat < 0x20
  · rw [if_pos hcontrol]
    exact stringUnits_control hcontrol s
  · rw [if_neg hcontrol]
    exact stringUnits_self hquote hslash hcontrol s

theorem stringUnits_flatMap (cs rest : List Char) :
    stringUnits (cs.flatMap escaped ++ '"' :: rest) = some (cs.map Char.toNat, rest) := by
  induction cs with
  | nil =>
      rw [List.flatMap_nil, List.nil_append, stringUnits.eq_def]
      simp
  | cons c cs ih =>
      rw [List.flatMap_cons, List.append_assoc, stringUnits_escaped, ih]
      rfl

/-- The characters of code points are those characters: none of them is half of a surrogate pair. -/
theorem charsOfUnits?_toNat (cs : List Char) : charsOfUnits? (cs.map Char.toNat) = some cs := by
  have hhalf (c : Char) : isHighSurrogate c.toNat = false ∧ isLowSurrogate c.toNat = false := by
    have hvalid : c.toNat < 0xD800 ∨ 0xDFFF < c.toNat ∧ c.toNat < 0x110000 := c.valid
    simp only [isHighSurrogate, isLowSurrogate, Bool.and_eq_false_iff, decide_eq_false_iff_not]
    omega
  induction cs with
  | nil => rfl
  | cons c cs ih =>
      obtain ⟨hhigh, hlow⟩ := hhalf c
      cases cs with
      | nil => simp [charsOfUnits?, hhigh, hlow]
      | cons d ds =>
          simp only [List.map_cons] at ih ⊢
          simp [charsOfUnits?, hhigh, hlow, ih]

/-- **A string is read as it is written.** -/
theorem stringBody_escaped (s : String) (rest : List Char) :
    stringBody (s.toList.flatMap escaped ++ '"' :: rest) = some (some s, rest) := by
  rw [stringBody, stringUnits_flatMap]
  simp [charsOfUnits?_toNat]

/-! ### Rows -/

theorem skipBlanks_append {gap : List Char} (hgap : ∀ c ∈ gap, isBlank c = true) (s : List Char) :
    skipBlanks (gap ++ s) = skipBlanks s := List.dropWhile_append_of_pos hgap

theorem skipBlanks_cons {c : Char} (hc : isBlank c = false) (s : List Char) :
    skipBlanks (c :: s) = c :: s := by simp [skipBlanks, hc]

theorem ends_append {gap s : List Char} (hgap : ∀ c ∈ gap, isBlank c = true) (hs : Ends s) :
    Ends (gap ++ s) := by
  cases gap with
  | nil => exact hs
  | cons c gap =>
      refine ends_cons ?_
      have hc := hgap c (by simp)
      simp only [isBlank, Bool.or_eq_true, decide_eq_true_eq] at hc
      obtain ((rfl | rfl) | rfl) | rfl := hc <;> decide

/-- The reader takes exactly the text, and yields the value, whatever stands behind the text.  The text
begins neither with a blank nor with the bracket that would close what it stands in. -/
structure ReadsText {β : Type} (element : Scan β) (close : Char) (text : List Char) (b : β) : Prop where
  begins : ∃ c cs, text = c :: cs ∧ isBlank c = false ∧ c ≠ close
  reads : ∀ rest, Ends rest → element (text ++ rest) = some (b, rest)

/-- Texts behind gaps, with commas between them. -/
def rows {α : Type} (gap : List Char) (text : α → List Char) : List α → List Char
  | [] => []
  | [a] => gap ++ text a
  | a :: rest => gap ++ text a ++ ',' :: rows gap text rest

theorem rows_cons {α : Type} (gap : List Char) (text : α → List Char) (a : α) (as : List α) :
    ∃ tail, rows gap text (a :: as) = gap ++ (text a ++ tail) := by
  cases as with
  | nil => exact ⟨[], by simp [rows]⟩
  | cons b as => exact ⟨',' :: rows gap text (b :: as), by simp [rows]⟩

section Rows

variable {α β : Type} {element : Scan β} {close : Char} {gap gap' : List Char}
  {text : α → List Char} {read : α → β}

/-- There are no more rows than characters in them. -/
theorem length_le_rows {as : List α} (h : ∀ a ∈ as, text a ≠ []) :
    as.length ≤ (rows gap text as).length := by
  induction as with
  | nil => simp
  | cons a as ih =>
      obtain ⟨ha, has⟩ := List.forall_mem_cons.1 h
      have hpos : 0 < (text a).length := List.length_pos_iff.2 ha
      have hrest := ih has
      cases as with
      | nil =>
          simp only [rows, List.length_append, List.length_cons, List.length_nil]
          omega
      | cons b as =>
          simp only [rows, List.length_append, List.length_cons] at hrest ⊢
          omega

/-- **Rows are read as they are written**, up to the closing bracket. -/
theorem elements_rows (hgap : ∀ c ∈ gap, isBlank c = true) (hgap' : ∀ c ∈ gap', isBlank c = true)
    {rest : List Char} (hclose : isBlank close = false) (hcomma : close ≠ ',')
    (hends : Ends (close :: rest)) :
    ∀ {as : List α}, as ≠ [] → (∀ a ∈ as, ReadsText element close (text a) (read a)) →
      ∀ {fuel : ℕ}, as.length ≤ fuel →
        elements element close fuel (rows gap text as ++ (gap' ++ close :: rest)) =
          some (as.map read, rest) := by
  intro as
  induction as with
  | nil => exact fun hne => absurd rfl hne
  | cons a as ih =>
      intro _ h fuel hfuel
      obtain ⟨⟨⟨c, cs, hcons, hblank, -⟩, hreads⟩, has⟩ := List.forall_mem_cons.1 h
      obtain ⟨fuel, rfl⟩ : ∃ k, fuel = k + 1 := ⟨fuel - 1, by simp only [List.length_cons] at hfuel; omega⟩
      -- the first row, from behind its gap
      have hfirst : ∀ tail, skipBlanks (gap ++ (text a ++ tail)) = text a ++ tail := by
        intro tail
        rw [skipBlanks_append hgap, hcons, List.cons_append, skipBlanks_cons hblank]
      cases as with
      | nil =>
          have hread := hreads (gap' ++ close :: rest) (ends_append hgap' hends)
          have htail : skipBlanks (gap' ++ close :: rest) = close :: rest := by
            rw [skipBlanks_append hgap', skipBlanks_cons hclose]
          simp only [rows, List.append_assoc, elements, hfirst, hread, htail, Option.bind_eq_bind,
            Option.bind_some, if_neg hcomma, if_true, List.map_cons, List.map_nil]
      | cons b as =>
          have hlength : (b :: as).length ≤ fuel := by
            simp only [List.length_cons] at hfuel ⊢
            omega
          have hrest := ih (by simp) has hlength
          have hread := hreads (',' :: (rows gap text (b :: as) ++ (gap' ++ close :: rest)))
            (ends_cons (by decide))
          have htail : skipBlanks (',' :: (rows gap text (b :: as) ++ (gap' ++ close :: rest))) =
              ',' :: (rows gap text (b :: as) ++ (gap' ++ close :: rest)) := skipBlanks_cons (by decide) _
          simp only [rows, List.append_assoc, List.cons_append, elements, hfirst] at hrest hread htail ⊢
          rw [hread]
          simp only [Option.bind_eq_bind, Option.bind_some, htail, if_true, hrest, List.map_cons]

/-- So is what stands between brackets. -/
theorem enclosed_rows (hgap : ∀ c ∈ gap, isBlank c = true) (hgap' : ∀ c ∈ gap', isBlank c = true)
    (rest : List Char) (hclose : isBlank close = false) (hcomma : close ≠ ',')
    (hends : Ends (close :: rest)) {as : List α} (hne : as ≠ [])
    (h : ∀ a ∈ as, ReadsText element close (text a) (read a)) :
    enclosed element close (rows gap text as ++ (gap' ++ close :: rest)) =
      some (as.map read, rest) := by
  have hnonempty : ∀ a ∈ as, text a ≠ [] := by
    intro a ha
    obtain ⟨c, cs, hcons, -⟩ := (h a ha).begins
    simp [hcons]
  have hfuel : as.length ≤ (rows gap text as ++ (gap' ++ close :: rest)).length := by
    have hle : as.length ≤ (rows gap text as).length := length_le_rows hnonempty
    rw [List.length_append]
    omega
  have hread := elements_rows hgap hgap' hclose hcomma hends hne h hfuel
  -- what is found first is the beginning of the first row
  obtain ⟨c, cs, hcons, hc⟩ : ∃ c cs, skipBlanks (rows gap text as ++ (gap' ++ close :: rest)) =
      c :: cs ∧ c ≠ close := by
    cases as with
    | nil => exact absurd rfl hne
    | cons a as =>
        obtain ⟨c, cs, hcons, hblank, hc⟩ := (h a (by simp)).begins
        obtain ⟨tail, htail⟩ := rows_cons gap text a as
        refine ⟨c, cs ++ tail ++ (gap' ++ close :: rest), ?_, hc⟩
        rw [htail, hcons, List.append_assoc, skipBlanks_append hgap]
        simp [skipBlanks_cons hblank]
  rw [enclosed, hcons]
  simp only [if_neg hc]
  exact hread

end Rows

/-! ### Values -/

/-- A value is read behind blanks as without them. -/
theorem value_append {gap : List Char} (hgap : ∀ c ∈ gap, isBlank c = true) (fuel : ℕ)
    (s : List Char) : value fuel (gap ++ s) = value fuel s := by
  cases fuel with
  | zero => rfl
  | succ fuel => rw [value, value, skipBlanks_append hgap]

/-- What is read as a number begins with a digit or with its sign. -/
theorem begins_of_numeral {s rest : List Char} {source : Source}
    (h : numeral s = some (source, rest)) : ∃ c cs, s = c :: cs ∧ (isDigit c = true ∨ c = '-') := by
  have hdigits : ∀ {s ds rest : List Char}, digits1 s = some (ds, rest) →
      ∃ c cs, s = c :: cs ∧ isDigit c = true := by
    intro s ds rest h
    cases s with
    | nil => cases h
    | cons c cs =>
        refine ⟨c, cs, rfl, ?_⟩
        by_contra hc
        simp [digits1, digits, hc] at h
  unfold numeral at h
  split at h
  next hsign =>
  split at hsign
  · next s' => exact ⟨'-', s', rfl, .inr rfl⟩
  · cases hsign
    obtain ⟨⟨whole, s₁⟩, hwhole, -⟩ := Option.bind_eq_some_iff.1 h
    unfold integral at hwhole
    split at hwhole
    · exact ⟨'0', _, rfl, .inl rfl⟩
    · obtain ⟨c, cs, hcons, hc⟩ := hdigits hwhole
      exact ⟨c, cs, hcons, .inl hc⟩

/-- A value that begins with a digit or a sign is a number. -/
theorem value_of_digit {fuel : ℕ} {c : Char} {s : List Char} (hc : isDigit c = true ∨ c = '-') :
    value (fuel + 1) (c :: s) = numeral (c :: s) := by
  have hstart : ∀ d tail, c :: s = d :: tail → isDigit d = true ∨ d = '-' := by
    intro d tail h
    rwa [(List.cons.inj h).1] at hc
  have hblank : isBlank c = false := by
    by_contra hblank
    rw [Bool.not_eq_false] at hblank
    simp only [isBlank, Bool.or_eq_true, decide_eq_true_eq] at hblank
    obtain ((rfl | rfl) | rfl) | rfl := hblank <;> exact absurd hc (by decide)
  rw [value, skipBlanks_cons hblank]
  split
  · next heq => cases heq
  · next heq => exact absurd (hstart _ _ heq) (by decide)
  · next heq => exact absurd (hstart _ _ heq) (by decide)
  · next heq => exact absurd (hstart _ _ heq) (by decide)
  · next heq => exact absurd (hstart _ _ heq) (by decide)
  · next heq => exact absurd (hstart _ _ heq) (by decide)
  · next heq => exact absurd (hstart _ _ heq) (by decide)
  · next heq =>
      obtain ⟨rfl, rfl⟩ := List.cons.inj heq
      rfl

theorem readsText_number {fuel : ℕ} {text : List Char} {source : Source}
    (h : ∀ rest, Ends rest → numeral (text ++ rest) = some (source, rest)) :
    ReadsText (value (fuel + 1)) ']' text source := by
  obtain ⟨c, cs, hcons, hc⟩ := begins_of_numeral (h [] ends_nil)
  rw [List.append_nil] at hcons
  subst hcons
  refine ⟨⟨c, cs, rfl, ?_, ?_⟩, fun rest hrest => ?_⟩
  · by_contra hblank
    rw [Bool.not_eq_false] at hblank
    simp only [isBlank, Bool.or_eq_true, decide_eq_true_eq] at hblank
    obtain ((rfl | rfl) | rfl) | rfl := hblank <;> exact absurd hc (by decide)
  · rintro rfl
    exact absurd hc (by decide)
  · rw [← h rest hrest, List.cons_append, value_of_digit hc]

theorem readsText_str (fuel : ℕ) (s : String) :
    ReadsText (value (fuel + 1)) ']' (Json.quotedChars s.toList) (.str (some s)) := by
  refine ⟨⟨'"', _, rfl, rfl, by decide⟩, fun rest _ => ?_⟩
  have hbody := stringBody_escaped s rest
  have htext : Json.quotedChars s.toList ++ rest =
      '"' :: (s.toList.flatMap escaped ++ '"' :: rest) := by simp [Json.quotedChars]
  rw [htext, value, skipBlanks_cons rfl]
  simp only [hbody, Option.map_some]

/-- A member is read as it is written, if its value is. -/
theorem readsText_member {fuel : ℕ} {text : List Char} {source : Source} (pad : List Char)
    (hpad : ∀ c ∈ pad, isBlank c = true) (k : String)
    (h : ReadsText (value fuel) ']' text source) :
    ReadsText (member (value fuel)) '}' (Json.quotedChars k.toList ++ ':' :: (pad ++ text))
      (some k, source) := by
  refine ⟨⟨'"', _, rfl, rfl, by decide⟩, fun rest hrest => ?_⟩
  have hbody := stringBody_escaped k (':' :: (pad ++ (text ++ rest)))
  have hvalue := h.reads rest hrest
  have htext : Json.quotedChars k.toList ++ ':' :: (pad ++ text) ++ rest =
      '"' :: (k.toList.flatMap escaped ++ '"' :: (':' :: (pad ++ (text ++ rest)))) := by
    simp [Json.quotedChars]
  have hcolon : skipBlanks (':' :: (pad ++ (text ++ rest))) = ':' :: (pad ++ (text ++ rest)) :=
    skipBlanks_cons rfl _
  rw [htext, member, hbody]
  simp only [Option.bind_eq_bind, Option.bind_some, hcolon, value_append hpad, hvalue]

section Brackets

variable {α : Type} {fuel : ℕ} {gap gap' : List Char} {text : α → List Char} {as : List α}

/-- An array is read as it is written, if its items are. -/
theorem readsText_arr {read : α → Source} (hgap : ∀ c ∈ gap, isBlank c = true)
    (hgap' : ∀ c ∈ gap', isBlank c = true) (hne : as ≠ [])
    (h : ∀ a ∈ as, ReadsText (value fuel) ']' (text a) (read a)) :
    ReadsText (value (fuel + 1)) ']' ('[' :: (rows gap text as ++ gap' ++ [']']))
      (.arr (as.map read)) := by
  refine ⟨⟨'[', _, rfl, rfl, by decide⟩, fun rest _ => ?_⟩
  have hrows := enclosed_rows hgap hgap' rest rfl (by decide) (ends_cons (by decide)) hne h
  have htext : '[' :: (rows gap text as ++ gap' ++ [']']) ++ rest =
      '[' :: (rows gap text as ++ (gap' ++ ']' :: rest)) := by simp
  rw [htext, value, skipBlanks_cons rfl]
  simp only [hrows, Option.map_some]

/-- An object is read as it is written, if its members are. -/
theorem readsText_obj {read : α → Option String × Source} (hgap : ∀ c ∈ gap, isBlank c = true)
    (hgap' : ∀ c ∈ gap', isBlank c = true) (hne : as ≠ [])
    (h : ∀ a ∈ as, ReadsText (member (value fuel)) '}' (text a) (read a)) :
    ReadsText (value (fuel + 1)) ']' ('{' :: (rows gap text as ++ gap' ++ ['}']))
      (.obj (as.map read)) := by
  refine ⟨⟨'{', _, rfl, rfl, by decide⟩, fun rest _ => ?_⟩
  have hrows := enclosed_rows hgap hgap' rest rfl (by decide) (ends_cons (by decide)) hne h
  have htext : '{' :: (rows gap text as ++ gap' ++ ['}']) ++ rest =
      '{' :: (rows gap text as ++ (gap' ++ '}' :: rest)) := by simp
  rw [htext, value, skipBlanks_cons rfl]
  simp only [hrows, Option.map_some]

end Brackets

end Source

/-! ### Documents as they are written -/

namespace Json

mutual

/-- The document as it is written. -/
def toSource : Json → Source
  | .null => .null
  | .bool b => .bool b
  | .int n => .number (some (.int n))
  | .big n => .number (some (.big n))
  | .float x => .number (some (.float x))
  | .str s => .str (some s)
  | .arr items => .arr (toSourceItems items)
  | .obj members => .obj (toSourceMembers members)

/-- `toSource` on each item. -/
def toSourceItems : List Json → List Source
  | [] => []
  | j :: rest => toSource j :: toSourceItems rest

/-- `toSource` on each member. -/
def toSourceMembers : List (String × Json) → List (Option String × Source)
  | [] => []
  | (k, j) :: rest => (some k, toSource j) :: toSourceMembers rest

end

theorem toSourceItems_eq_map (items : List Json) : toSourceItems items = items.map toSource := by
  induction items with
  | nil => rfl
  | cons j rest ih => rw [toSourceItems, ih, List.map_cons]

theorem toSourceMembers_eq_map (members : List (String × Json)) :
    toSourceMembers members = members.map fun member => (some member.1, toSource member.2) := by
  induction members with
  | nil => rfl
  | cons member rest ih => rw [toSourceMembers, ih, List.map_cons]

/-- A legible document is the tree of its source. -/
theorem toJson?_toSource {j : Json} :
    ∀ {depth : ℕ}, j.Legible depth → j.toSource.toJson? depth = some j := by
  induction j with
  | arr items ih =>
      intro depth h
      obtain ⟨below, rfl, hitems⟩ := legible_arr.1 h
      have hread : Source.toJsonItems? below (toSourceItems items) = some items := by
        clear h
        induction items with
        | nil => rfl
        | cons j rest ihrest =>
            obtain ⟨hj, hrest⟩ := List.forall_mem_cons.1 hitems
            obtain ⟨ihj, ihs⟩ := List.forall_mem_cons.1 ih
            rw [toSourceItems, Source.toJsonItems?, ihj hj, ihrest ihs hrest]
            rfl
      rw [toSource, Source.toJson?, hread]
      rfl
  | obj members ih =>
      intro depth h
      obtain ⟨below, rfl, hmembers⟩ := legible_obj.1 h
      have hread : Source.toJsonMembers? below (toSourceMembers members) = some members := by
        clear h
        induction members with
        | nil => rfl
        | cons member rest ihrest =>
            obtain ⟨hj, hrest⟩ := List.forall_mem_cons.1 hmembers
            obtain ⟨ihj, ihs⟩ := List.forall_mem_cons.1 ih
            rw [toSourceMembers, Source.toJsonMembers?, ihj hj, ihrest ihs hrest]
            rfl
      rw [toSource, Source.toJson?, hread]
      rfl
  | _ => exact fun _ => rfl

/-! ### Layouts -/

/-- A member as it is written: `pad` stands behind the colon. -/
def memberChars (pad : List Char) (text : Json → List Char) (member : String × Json) : List Char :=
  quotedChars member.1.toList ++ ':' :: (pad ++ text member.2)

/-- A way to write documents out.  Items and members stand in rows, one level deeper than what they are
in, with a gap before each and before the bracket that closes. -/
structure Layout where
  /-- the text of a document that stands at a level -/
  text : ℕ → Json → List Char
  gap : ℕ → List Char
  /-- what stands behind the colon of a member -/
  pad : List Char
  blank_gap : ∀ level, ∀ c ∈ gap level, Source.isBlank c = true
  blank_pad : ∀ c ∈ pad, Source.isBlank c = true
  /-- a document without parts is written in one way only -/
  text_leaf : ∀ level j, (∀ items, j ≠ .arr items) → (∀ members, j ≠ .obj members) →
    text level j = compactChars j
  text_arr_nil : ∀ level, text level (.arr []) = ['[', ']']
  text_arr_cons : ∀ level j rest, text level (.arr (j :: rest)) =
    '[' :: (Source.rows (gap (level + 1)) (text (level + 1)) (j :: rest) ++ gap level ++ [']'])
  text_obj_nil : ∀ level, text level (.obj []) = ['{', '}']
  text_obj_cons : ∀ level member rest, text level (.obj (member :: rest)) =
    '{' :: (Source.rows (gap (level + 1)) (memberChars pad (text (level + 1))) (member :: rest)
      ++ gap level ++ ['}'])

end Json

namespace Source

/-- The text of a row is shorter than all rows. -/
theorem length_row_le {α : Type} (gap : List Char) (text : α → List Char) {a : α} {as : List α}
    (h : a ∈ as) : (text a).length ≤ (rows gap text as).length := by
  induction as with
  | nil => cases h
  | cons b as ih =>
      obtain ⟨tail, htail⟩ := rows_cons gap text b as
      rcases List.mem_cons.1 h with rfl | hrest
      · simp only [htail, List.length_append]
        omega
      · have hle := ih hrest
        cases as with
        | nil => cases hrest
        | cons c as =>
            simp only [rows, List.length_append, List.length_cons] at hle ⊢
            omega

open Json (Layout)

/-- **A document is read as it is written**, in any layout.  The text bounds how deeply it is nested. -/
theorem readsText_layout (layout : Layout) {j : Json} : ∀ {depth : ℕ}, j.Legible depth →
    ∀ (level fuel : ℕ), (layout.text level j).length < fuel →
      ReadsText (value fuel) ']' (layout.text level j) j.toSource := by
  induction j with
  | null =>
      intro depth _ level fuel hfuel
      obtain ⟨fuel, rfl⟩ : ∃ k, fuel = k + 1 := ⟨fuel - 1, by omega⟩
      rw [layout.text_leaf level .null nofun nofun]
      exact ⟨⟨'n', _, rfl, rfl, by decide⟩, fun rest _ => rfl⟩
  | bool b =>
      intro depth _ level fuel hfuel
      obtain ⟨fuel, rfl⟩ : ∃ k, fuel = k + 1 := ⟨fuel - 1, by omega⟩
      rw [layout.text_leaf level (.bool b) nofun nofun]
      cases b with
      | true => exact ⟨⟨'t', _, rfl, rfl, by decide⟩, fun rest _ => rfl⟩
      | false => exact ⟨⟨'f', _, rfl, rfl, by decide⟩, fun rest _ => rfl⟩
  | int n =>
      intro depth _ level fuel hfuel
      obtain ⟨fuel, rfl⟩ : ∃ k, fuel = k + 1 := ⟨fuel - 1, by omega⟩
      rw [layout.text_leaf level (.int n) nofun nofun]
      exact readsText_number fun rest hrest => numeral_int n hrest
  | big n =>
      intro depth h level fuel hfuel
      obtain ⟨fuel, rfl⟩ : ∃ k, fuel = k + 1 := ⟨fuel - 1, by omega⟩
      rw [layout.text_leaf level (.big n) nofun nofun]
      exact readsText_number fun rest hrest => numeral_big h hrest
  | float x =>
      intro depth h level fuel hfuel
      obtain ⟨fuel, rfl⟩ : ∃ k, fuel = k + 1 := ⟨fuel - 1, by omega⟩
      have htext : Json.compactChars (.float x) = x.interchangeText := if_pos h
      rw [layout.text_leaf level (.float x) nofun nofun, htext]
      exact readsText_number fun rest hrest => numeral_float h hrest
  | str s =>
      intro depth _ level fuel hfuel
      obtain ⟨fuel, rfl⟩ : ∃ k, fuel = k + 1 := ⟨fuel - 1, by omega⟩
      rw [layout.text_leaf level (.str s) nofun nofun]
      exact readsText_str fuel s
  | arr items ih =>
      intro depth h level fuel hfuel
      obtain ⟨fuel, rfl⟩ : ∃ k, fuel = k + 1 := ⟨fuel - 1, by omega⟩
      obtain ⟨below, -, hitems⟩ := Json.legible_arr.1 h
      rw [Json.toSource, Json.toSourceItems_eq_map]
      cases items with
      | nil =>
          rw [layout.text_arr_nil]
          exact ⟨⟨'[', _, rfl, rfl, by decide⟩, fun rest _ => rfl⟩
      | cons j rest =>
          rw [layout.text_arr_cons] at hfuel ⊢
          refine readsText_arr (layout.blank_gap _) (layout.blank_gap _) (by simp) fun item hitem => ?_
          refine ih item hitem (hitems item hitem) (level + 1) fuel ?_
          have hle := length_row_le (layout.gap (level + 1)) (layout.text (level + 1)) hitem
          simp only [List.length_cons, List.length_append, List.length_nil] at hfuel
          omega
  | obj members ih =>
      intro depth h level fuel hfuel
      obtain ⟨fuel, rfl⟩ : ∃ k, fuel = k + 1 := ⟨fuel - 1, by omega⟩
      obtain ⟨below, -, hmembers⟩ := Json.legible_obj.1 h
      rw [Json.toSource, Json.toSourceMembers_eq_map]
      cases members with
      | nil =>
          rw [layout.text_obj_nil]
          exact ⟨⟨'{', _, rfl, rfl, by decide⟩, fun rest _ => rfl⟩
      | cons member rest =>
          rw [layout.text_obj_cons] at hfuel ⊢
          refine readsText_obj (layout.blank_gap _) (layout.blank_gap _) (by simp) fun m hm => ?_
          refine readsText_member layout.pad layout.blank_pad m.1
            (ih m hm (hmembers m hm) (level + 1) fuel ?_)
          -- a value is shorter than its member
          have hle := length_row_le (layout.gap (level + 1))
            (Json.memberChars layout.pad (layout.text (level + 1))) hm
          simp only [Json.memberChars, List.length_cons, List.length_append, List.length_nil] at hfuel hle
          omega

theorem readChars?_layout (layout : Layout) {j : Json} {depth : ℕ} (h : j.Legible depth) :
    readChars? (layout.text 0 j) = some j.toSource := by
  have hread := (readsText_layout layout h 0 ((layout.text 0 j).length + 1) (by omega)).reads []
    ends_nil
  rw [List.append_nil] at hread
  rw [readChars?, hread]
  rfl

end Source

namespace Json

variable {j : Json} {depth : ℕ}

/-! ### Compact documents -/

theorem compactItems_eq_rows (items : List Json) :
    compactItems items = Source.rows [] compactChars items := by
  induction items with
  | nil => rfl
  | cons j rest ih =>
      cases rest with
      | nil => simp [compactItems, Source.rows]
      | cons j' rest =>
          rw [compactItems, ih]
          · rfl
          · intro h
            cases h

theorem compactMembers_eq_rows (members : List (String × Json)) :
    compactMembers members = Source.rows [] (memberChars [] compactChars) members := by
  induction members with
  | nil => rfl
  | cons member rest ih =>
      cases rest with
      | nil => simp [compactMembers, memberChars, Source.rows]
      | cons member' rest =>
          rw [compactMembers, ih]
          · simp [Source.rows, memberChars]
          · intro h
            cases h

/-- The layout without blanks. -/
def Layout.compact : Layout where
  text _ := compactChars
  gap _ := []
  pad := []
  blank_gap _ := List.forall_mem_nil _
  blank_pad := List.forall_mem_nil _
  text_leaf _ _ _ _ := rfl
  text_arr_nil _ := rfl
  text_arr_cons _ j rest := by rw [compactChars, compactItems_eq_rows, List.append_nil]
  text_obj_nil _ := rfl
  text_obj_cons _ member rest := by rw [compactChars, compactMembers_eq_rows, List.append_nil]

theorem source_compact (h : j.Legible depth) : Source.read? j.compact = some j.toSource := by
  rw [Source.read?, compact, String.toList_ofList]
  exact Source.readChars?_layout .compact h

/-! ### Indented documents -/

/-- A member as it is indented. -/
def indentedMember (level : ℕ) (member : String × Json) : List Char :=
  memberChars [' '] (indentedChars level) member

theorem indentedItems_eq_rows (level : ℕ) (items : List Json) :
    indentedItems level items = Source.rows (newline level) (indentedChars level) items := by
  induction items with
  | nil => rfl
  | cons j rest ih =>
      cases rest with
      | nil => simp [indentedItems, Source.rows]
      | cons j' rest =>
          rw [indentedItems, ih]
          · rfl
          · intro h
            cases h

theorem indentedMembers_eq_rows (level : ℕ) (members : List (String × Json)) :
    indentedMembers level members = Source.rows (newline level) (indentedMember level) members := by
  induction members with
  | nil => rfl
  | cons member rest ih =>
      cases rest with
      | nil => simp [indentedMembers, indentedMember, memberChars, Source.rows]
      | cons member' rest =>
          rw [indentedMembers, ih]
          · simp [Source.rows, indentedMember, memberChars]
          · intro h
            cases h

theorem isBlank_of_mem_newline {level : ℕ} {c : Char} (h : c ∈ newline level) :
    Source.isBlank c = true := by
  rcases List.mem_cons.1 h with rfl | h
  · rfl
  · obtain rfl := List.eq_of_mem_replicate h
    rfl

/-- The layout with one value per line. -/
def Layout.indented : Layout where
  text := indentedChars
  gap := newline
  pad := [' ']
  blank_gap _ _ := isBlank_of_mem_newline
  blank_pad := by simp [Source.isBlank]
  text_leaf level j harr hobj := by
    cases j with
    | arr items => exact absurd rfl (harr items)
    | obj members => exact absurd rfl (hobj members)
    | _ => rfl
  text_arr_nil _ := rfl
  text_arr_cons level j rest := by
    rw [← indentedItems_eq_rows]
    rfl
  text_obj_nil _ := rfl
  text_obj_cons level member rest := by
    show _ = '{' :: (Source.rows (newline (level + 1)) (indentedMember (level + 1)) _ ++ _ ++ _)
    rw [← indentedMembers_eq_rows]
    rfl

theorem read?_source (h : j.Legible depth) : Source.read? j.indented = some j.toSource := by
  rw [Source.read?, indented, String.toList_ofList]
  exact Source.readChars?_layout .indented h

/-- **A legible document is read as it is written.** -/
theorem read?_indented (h : j.Legible nestingLimit) : read? j.indented = some j := by
  rw [read?, read?_source h]
  exact toJson?_toSource h

/-- **So is a record**, if all its members are known. -/
theorem readRecord?_indented {known : List String} {members : List (String × Json)}
    (h : (obj members).Legible nestingLimit) (hknown : ∀ member ∈ members, member.1 ∈ known) :
    readRecord? known (obj members).indented = some (obj members) := by
  have hrestrict : (obj members).toSource.restrict known = (obj members).toSource := by
    rw [toSource, Source.restrict, toSourceMembers_eq_map]
    congr 1
    refine List.filter_eq_self.2 fun written hwritten => ?_
    obtain ⟨member, hmember, rfl⟩ := List.mem_map.1 hwritten
    simpa using hknown member hmember
  rw [readRecord?, read?_source h]
  show ((obj members).toSource.restrict known).toJson? nestingLimit = _
  rw [hrestrict]
  exact toJson?_toSource h

end Json

end Conform
