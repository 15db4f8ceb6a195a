/-
**Numbers are read as they are written.**

An integer is written as its digits, and read by adding them up.  A float is written as the shortest
decimal that rounds to it, in one of two layouts, and the reader need not get the same decimal out of
the digits: it reads `100.0` as `1000` tenths.  But it gets a decimal of the same value, and the value
alone decides which float is read.

A number ends where nothing follows that would continue it: no digit, no point, and no exponent.

Main definitions:

* `Source.Ends` — what may stand behind a number;
* `Source.Whole` — digits that may stand before a point.

Main results:

* `Source.numeral_of_parts` — a number is read part by part;
* `Source.numeral_int`, `Source.numeral_big` — **an integer is read as it is written**;
* `Source.readsAs_interchange` — the text of a decimal is read as a decimal of the same value;
* `Source.numeral_float` — **a finite float is read as it is written**.
-/

import Conform.Json.Reader
import Conform.Json.Writer
import Conform.Proofs.Binary64.Reading

set_option relaxedAutoImplicit false
set_option autoImplicit false

namespace Conform

namespace Source

/-! ### Digits -/

theorem digitsValue_eq (cs : List Char) : digitsValue cs = Nat.ofDigitChars 10 cs 0 :=
  Nat.ofDigitChars_eq_foldl.symm

theorem isDigit_of_mem_digitChars {n : ℕ} {c : Char} (h : c ∈ Decimal.digitChars n) :
    isDigit c = true := by
  have hdigit : c.isDigit = true := Nat.isDigit_of_mem_toDigits (by norm_num) (by norm_num) h
  exact hdigit

theorem digitsValue_digitChars (n : ℕ) : digitsValue (Decimal.digitChars n) = n := by
  rw [digitsValue_eq, Decimal.digitChars, Nat.ofDigitChars_toDigits (by norm_num) (by norm_num)]

theorem digitsValue_append_zeros (cs : List Char) (k : ℕ) :
    digitsValue (cs ++ List.replicate k '0') = digitsValue cs * 10 ^ k := by
  rw [digitsValue_eq, digitsValue_eq, Nat.ofDigitChars_append, Nat.ofDigitChars_replicate_zero,
    Nat.mul_comm]

theorem digitsValue_zeros_append (k : ℕ) (cs : List Char) :
    digitsValue (List.replicate k '0' ++ cs) = digitsValue cs := by
  rw [digitsValue_eq, digitsValue_eq, Nat.ofDigitChars_append, Nat.ofDigitChars_replicate_zero,
    Nat.mul_zero]

/-- The digits of a natural begin with a zero only if the natural is zero. -/
theorem digitChars_eq_cons (n : ℕ) :
    ∃ c cs, Decimal.digitChars n = c :: cs ∧ (n ≠ 0 → c ≠ '0') := by
  unfold Decimal.digitChars
  induction n using Nat.strong_induction_on with
  | _ n ih =>
      rw [Nat.toDigits_eq_if (by norm_num)]
      split
      · next hlt =>
          refine ⟨n.digitChar, [], rfl, ?_⟩
          interval_cases n <;> decide
      · next hge =>
          -- the first digit is that of the natural without its last digit
          obtain ⟨c, cs, hcons, hc⟩ := ih (n / 10) (by omega)
          rw [hcons]
          exact ⟨c, cs ++ [(n % 10).digitChar], rfl, fun _ => hc (by omega)⟩

/-! ### What stands behind a number and behind its parts -/

/-- What may stand behind digits: no digit. -/
def NoDigit (rest : List Char) : Prop := ∀ c, rest.head? = some c → isDigit c = false

/-- What may stand behind a number: nothing that would continue it. -/
def Ends (rest : List Char) : Prop :=
  ∀ c, rest.head? = some c → isDigit c = false ∧ c ≠ '.' ∧ c ≠ 'e' ∧ c ≠ 'E'

theorem noDigit_cons {c : Char} {rest : List Char} (h : isDigit c = false) : NoDigit (c :: rest) := by
  intro d hd
  obtain rfl := Option.some.inj hd
  exact h

theorem ends_nil : Ends [] := by
  intro c hc
  cases hc

theorem ends_cons {c : Char} {rest : List Char}
    (h : isDigit c = false ∧ c ≠ '.' ∧ c ≠ 'e' ∧ c ≠ 'E') : Ends (c :: rest) := by
  intro d hd
  obtain rfl := Option.some.inj hd
  exact h

theorem Ends.noDigit {rest : List Char} (h : Ends rest) : NoDigit rest := fun c hc => (h c hc).1

/-! ### Parts of a number -/

/-- Digits are read up to where no digit follows. -/
theorem digits1_append {ds rest : List Char} (hne : ds ≠ []) (hds : ∀ c ∈ ds, isDigit c = true)
    (hrest : NoDigit rest) : digits1 (ds ++ rest) = some (ds, rest) := by
  have htail : rest.takeWhile isDigit = [] ∧ rest.dropWhile isDigit = rest := by
    cases rest with
    | nil => exact ⟨rfl, rfl⟩
    | cons c rest =>
        have hc := hrest c rfl
        simp [hc]
  rw [digits1, digits, List.takeWhile_append_of_pos hds, List.dropWhile_append_of_pos hds, htail.1,
    htail.2, List.append_nil]
  cases ds with
  | nil => exact absurd rfl hne
  | cons c ds => rfl

/-- Digits that may stand before a point: a zero stands alone. -/
def Whole (ds : List Char) : Prop :=
  ds = ['0'] ∨ (∀ d ∈ ds, isDigit d = true) ∧ ∃ c cs, ds = c :: cs ∧ c ≠ '0'

theorem Whole.head {ds : List Char} (h : Whole ds) : ∃ c cs, ds = c :: cs ∧ isDigit c = true := by
  obtain rfl | ⟨hds, c, cs, rfl, -⟩ := h
  · exact ⟨'0', [], rfl, rfl⟩
  · exact ⟨c, cs, rfl, hds c (by simp)⟩

theorem Whole.integral {ds rest : List Char} (h : Whole ds) (hrest : NoDigit rest) :
    integral (ds ++ rest) = some (ds, rest) := by
  obtain rfl | ⟨hds, c, cs, rfl, hc⟩ := h
  · rfl
  · rw [← digits1_append (by simp) hds hrest, List.cons_append, Source.integral]
    intro tail htail
    exact hc (List.cons.inj htail).1

/-- The digits of a natural that is not zero may stand before a point, also with zeros behind them. -/
theorem whole_append_zeros {n : ℕ} (hn : n ≠ 0) (k : ℕ) :
    Whole (Decimal.digitChars n ++ List.replicate k '0') := by
  obtain ⟨c, cs, hcons, hc⟩ := digitChars_eq_cons n
  refine .inr ⟨?_, c, cs ++ List.replicate k '0', by rw [hcons, List.cons_append], hc hn⟩
  intro d hd
  rcases List.mem_append.1 hd with hd | hd
  · exact isDigit_of_mem_digitChars hd
  · obtain rfl := List.eq_of_mem_replicate hd
    rfl

theorem whole_digitChars (n : ℕ) : Whole (Decimal.digitChars n) := by
  by_cases hn : n = 0
  · subst hn
    exact .inl rfl
  · simpa using whole_append_zeros hn 0

/-- So may the first digits of such a natural. -/
theorem whole_take {n k : ℕ} (hn : n ≠ 0) (hk : 0 < k) : Whole ((Decimal.digitChars n).take k) := by
  obtain ⟨c, cs, hcons, hc⟩ := digitChars_eq_cons n
  obtain ⟨k, rfl⟩ : ∃ m, k = m + 1 := ⟨k - 1, by omega⟩
  refine .inr ⟨?_, c, cs.take k, by rw [hcons, List.take_succ_cons], hc hn⟩
  exact fun d hd => isDigit_of_mem_digitChars (List.mem_of_mem_take hd)

theorem fraction_none {rest : List Char} (h : ∀ c, rest.head? = some c → c ≠ '.') :
    fraction rest = some (none, rest) := by
  cases rest with
  | nil => rfl
  | cons c rest =>
      rw [fraction]
      intro tail htail
      exact h c rfl (List.cons.inj htail).1

theorem fraction_point {ds rest : List Char} (hne : ds ≠ []) (hds : ∀ c ∈ ds, isDigit c = true)
    (hrest : NoDigit rest) : fraction ('.' :: (ds ++ rest)) = some (some ds, rest) := by
  rw [fraction, digits1_append hne hds hrest]
  rfl

theorem exponentPart_none {rest : List Char} (h : Ends rest) :
    exponentPart rest = some (none, rest) := by
  cases rest with
  | nil => rfl
  | cons c rest =>
      obtain ⟨-, -, he, hE⟩ := h c rfl
      simp [exponentPart, he, hE]

/-- The text of an exponent. -/
def exponentChars (power : ℤ) : List Char :=
  'e' :: ((if power < 0 then ['-'] else ['+']) ++ Decimal.digitChars power.natAbs)

theorem exponentPart_exponentChars (power : ℤ) {rest : List Char} (hrest : Ends rest) :
    exponentPart (exponentChars power ++ rest) = some (some power, rest) := by
  have hdigits : digits1 (Decimal.digitChars power.natAbs ++ rest) =
      some (Decimal.digitChars power.natAbs, rest) :=
    digits1_append Nat.toDigits_ne_nil (fun _ => isDigit_of_mem_digitChars) hrest.noDigit
  unfold exponentChars
  by_cases hneg : power < 0
  · simp [exponentPart, hneg, hdigits, digitsValue_digitChars, abs_of_neg hneg]
  · simp [exponentPart, hneg, hdigits, digitsValue_digitChars, abs_of_nonneg (not_lt.1 hneg)]

/-! ### Numbers from their parts -/

/-- The sign of a number. -/
def sign (negative : Bool) : List Char := if negative then ['-'] else []

/-- The value of a number from its parts. -/
def numberOf (negative : Bool) (whole : List Char) (part : Option (List Char)) (power : Option ℤ) :
    Option Json :=
  match part, power with
  | none, none => integer? negative (digitsValue whole)
  | _, _ =>
    finite? (Binary64.ofScientific negative (digitsValue (whole ++ part.getD []))
      (power.getD 0 - (part.getD []).length))

/-- **A number is read part by part.** -/
theorem numeral_of_parts (negative : Bool) {whole s s' rest : List Char}
    {part : Option (List Char)} {power : Option ℤ} (hwhole : Whole whole) (hs : NoDigit s)
    (hpart : fraction s = some (part, s')) (hpower : exponentPart s' = some (power, rest)) :
    numeral (sign negative ++ (whole ++ s)) =
      some (.number (numberOf negative whole part power), rest) := by
  have hintegral := hwhole.integral hs
  cases negative with
  | true =>
      unfold numeral
      simp only [sign, if_true, List.singleton_append, hintegral, hpart, hpower, Option.bind_eq_bind,
        Option.bind_some]
      rfl
  | false =>
      obtain ⟨c, cs, rfl, hc⟩ := hwhole.head
      unfold numeral
      simp only [sign, Bool.false_eq_true, if_false, List.nil_append]
      split
      · next heq =>
          -- a digit is no minus
          obtain ⟨rfl, -⟩ := List.cons.inj heq
          cases hc
      · simp only [hintegral, hpart, hpower, Option.bind_eq_bind, Option.bind_some]
        rfl

/-! ### Integers -/

theorem integerChars_eq (n : ℤ) :
    Json.integerChars n = sign (decide (n < 0)) ++ Decimal.digitChars n.natAbs := by
  by_cases hneg : n < 0 <;> simp [Json.integerChars, sign, hneg]

/-- The digits of an integer are read as its sign and its magnitude. -/
theorem numeral_integerChars (n : ℤ) {rest : List Char} (hrest : Ends rest) :
    numeral (Json.integerChars n ++ rest) =
      some (.number (integer? (decide (n < 0)) n.natAbs), rest) := by
  have hread := numeral_of_parts (decide (n < 0)) (whole_digitChars n.natAbs) hrest.noDigit
    (fraction_none fun c hc => (hrest c hc).2.1) (exponentPart_none hrest)
  rw [integerChars_eq, List.append_assoc, hread, numberOf, digitsValue_digitChars]

/-- **An integer of 64 signed bits is read as it is written.** -/
theorem numeral_int (n : Int64) {rest : List Char} (hrest : Ends rest) :
    numeral (Json.integerChars n.toInt ++ rest) = some (.number (some (.int n)), rest) := by
  have hlow : -2 ^ 63 ≤ n.toInt := Int64.le_toInt n
  have hhigh : n.toInt < 2 ^ 63 := Int64.toInt_lt n
  have hint : integer? (decide (n.toInt < 0)) n.toInt.natAbs = some (.int n) := by
    by_cases hneg : n.toInt < 0
    · have habs : -((n.toInt.natAbs : ℕ) : ℤ) = n.toInt := by omega
      rw [integer?, decide_eq_true hneg, if_pos rfl, if_pos ⟨by omega, by omega⟩, habs,
        Int64.ofInt_toInt]
    · have habs : ((n.toInt.natAbs : ℕ) : ℤ) = n.toInt := by omega
      rw [integer?, decide_eq_false hneg, if_neg (by simp), if_pos (by omega), habs,
        Int64.ofInt_toInt]
  rw [numeral_integerChars _ hrest, hint]

/-- **So is one of 64 unsigned bits** that is too great for those. -/
theorem numeral_big {n : UInt64} (h : 0x8000000000000000 ≤ n.toNat) {rest : List Char}
    (hrest : Ends rest) :
    numeral (Json.integerChars n.toNat ++ rest) = some (.number (some (.big n)), rest) := by
  have hlt : n.toNat < 2 ^ 64 := n.toNat_lt
  have hneg : ¬ (n.toNat : ℤ) < 0 := by omega
  rw [numeral_integerChars _ hrest, Int.natAbs_natCast, integer?, decide_eq_false hneg,
    if_neg (by simp), if_neg (by omega), if_pos (by omega), UInt64.ofNat_toNat]

/-! ### Floats -/

/-- A number with digits behind its point is a float. -/
theorem numeral_point (negative : Bool) {whole rest : List Char} (part : List Char)
    (hwhole : Whole whole) (hne : part ≠ []) (hpart : ∀ c ∈ part, isDigit c = true) (hrest : Ends rest) :
    numeral (sign negative ++ (whole ++ '.' :: (part ++ rest))) =
      some (.number (finite? (Binary64.ofScientific negative (digitsValue (whole ++ part))
        (-part.length))), rest) := by
  have hread := numeral_of_parts negative hwhole (noDigit_cons rfl)
    (fraction_point hne hpart hrest.noDigit) (exponentPart_none hrest)
  simpa [numberOf] using hread

/-- A number with an exponent is a float. -/
theorem numeral_exponent (negative : Bool) {whole s rest : List Char} {part : Option (List Char)}
    (power : ℤ) (hwhole : Whole whole) (hs : NoDigit s)
    (hpart : fraction s = some (part, exponentChars power ++ rest)) (hrest : Ends rest) :
    numeral (sign negative ++ (whole ++ s)) =
      some (.number (finite? (Binary64.ofScientific negative (digitsValue (whole ++ part.getD []))
        (power - (part.getD []).length))), rest) := by
  have hread := numeral_of_parts negative hwhole hs hpart (exponentPart_exponentChars power hrest)
  cases part <;> simpa [numberOf] using hread

/-- The digits and the power that a reader finds in the text of a decimal. -/
def ReadsAs (negative : Bool) (d : Decimal) (text rest : List Char) : Prop :=
  ∃ (digits : ℕ) (power : ℤ), (digits : ℚ) * 10 ^ power = d.value ∧
    numeral (sign negative ++ (text ++ rest)) =
      some (.number (finite? (Binary64.ofScientific negative digits power)), rest)

variable {negative : Bool} {d : Decimal} {rest : List Char}

/-- All digits stand before the point. -/
theorem readsAs_whole (hzero : d.digits = 0 → d.power = 0) (hpower : 0 ≤ d.power)
    (hrest : Ends rest) : ReadsAs negative d (d.positional ['.', '0']) rest := by
  have hwhole : Whole (Decimal.digitChars d.digits ++ List.replicate d.power.toNat '0') := by
    by_cases hz : d.digits = 0
    · rw [hz, hzero hz]
      exact .inl rfl
    · exact whole_append_zeros hz _
  have hvalue : digitsValue (Decimal.digitChars d.digits ++ List.replicate d.power.toNat '0' ++ ['0']) =
      d.digits * 10 ^ d.power.toNat * 10 := by
    have hone : (['0'] : List Char) = List.replicate 1 '0' := rfl
    rw [hone, digitsValue_append_zeros, digitsValue_append_zeros, digitsValue_digitChars, pow_one]
  refine ⟨d.digits * 10 ^ d.power.toNat * 10, -1, ?_, ?_⟩
  · have hcast : (10 : ℚ) ^ d.power.toNat = 10 ^ d.power := by
      rw [← zpow_natCast, Int.toNat_of_nonneg hpower]
    push_cast
    rw [hcast, Decimal.value, zpow_neg_one]
    ring
  · have hread := numeral_point negative ['0'] hwhole (by simp) (by simp [isDigit]) hrest
    rw [hvalue] at hread
    simpa [Decimal.positional, hpower] using hread

/-- The point stands within the digits. -/
theorem readsAs_inside (hpower : d.power < 0)
    (hplaces : (-d.power).toNat < (Decimal.digitChars d.digits).length) (hne : d.digits ≠ 0)
    (hrest : Ends rest) : ReadsAs negative d (d.positional ['.', '0']) rest := by
  have hlength : ((Decimal.digitChars d.digits).drop
      ((Decimal.digitChars d.digits).length - (-d.power).toNat)).length = (-d.power).toNat := by
    rw [List.length_drop]
    omega
  have hread := numeral_point negative
    ((Decimal.digitChars d.digits).drop
      ((Decimal.digitChars d.digits).length - (-d.power).toNat))
    (whole_take (k := (Decimal.digitChars d.digits).length - (-d.power).toNat) hne (by omega))
    (by rw [← List.length_pos_iff, hlength]; omega)
    (fun c hc => isDigit_of_mem_digitChars (List.mem_of_mem_drop hc)) hrest
  rw [List.take_append_drop, digitsValue_digitChars, hlength] at hread
  refine ⟨d.digits, -((-d.power).toNat : ℕ), ?_, ?_⟩
  · have hcast : -(((-d.power).toNat : ℕ) : ℤ) = d.power := by omega
    rw [hcast, Decimal.value]
  · have hneg : ¬ 0 ≤ d.power := by omega
    simpa [Decimal.positional, hneg, hplaces] using hread

/-- All digits stand behind the point. -/
theorem readsAs_behind (hpower : d.power < 0)
    (hplaces : (Decimal.digitChars d.digits).length ≤ (-d.power).toNat) (hrest : Ends rest) :
    ReadsAs negative d (d.positional ['.', '0']) rest := by
  have htext : d.positional ['.', '0'] = ['0'] ++ '.' :: (List.replicate
      ((-d.power).toNat - (Decimal.digitChars d.digits).length) '0' ++
        Decimal.digitChars d.digits) := by
    have hneg : ¬ 0 ≤ d.power := by omega
    have hplaces' : ¬ (-d.power).toNat < (Decimal.digitChars d.digits).length := by omega
    simp [Decimal.positional, hneg, hplaces']
  generalize hpart : List.replicate ((-d.power).toNat - (Decimal.digitChars d.digits).length) '0' ++
    Decimal.digitChars d.digits = part at htext
  have hdigits : ∀ c ∈ part, isDigit c = true := by
    rw [← hpart]
    intro c hc
    rcases List.mem_append.1 hc with hc | hc
    · obtain rfl := List.eq_of_mem_replicate hc
      rfl
    · exact isDigit_of_mem_digitChars hc
  have hne : part ≠ [] := by
    rw [← hpart]
    simp [Decimal.digitChars, Nat.toDigits_ne_nil]
  have hlength : part.length = (-d.power).toNat := by
    rw [← hpart, List.length_append, List.length_replicate]
    omega
  have hvalue : digitsValue (['0'] ++ part) = d.digits := by
    have hone : (['0'] : List Char) = List.replicate 1 '0' := rfl
    rw [hone, ← hpart, digitsValue_zeros_append, digitsValue_zeros_append, digitsValue_digitChars]
  have hread := numeral_point negative part (.inl rfl) hne hdigits hrest
  rw [hvalue, hlength] at hread
  refine ⟨d.digits, -((-d.power).toNat : ℕ), ?_, ?_⟩
  · have hcast : -(((-d.power).toNat : ℕ) : ℤ) = d.power := by omega
    rw [hcast, Decimal.value]
  · rw [htext]
    simpa using hread

/-- One digit stands before the point, and an exponent behind the others. -/
theorem readsAs_scientific (hne : d.digits ≠ 0) (hrest : Ends rest) :
    ReadsAs negative d (d.scientific ['+']) rest := by
  obtain ⟨c, cs, hcons, hc⟩ := digitChars_eq_cons d.digits
  have hdigits : ∀ e ∈ c :: cs, isDigit e = true := by
    rw [← hcons]
    exact fun e he => isDigit_of_mem_digitChars he
  have hvalue := digitsValue_digitChars d.digits
  rw [hcons] at hvalue
  have hwhole : Whole [c] := .inr ⟨fun e he => hdigits e (by simp_all), c, [], rfl, hc hne⟩
  unfold ReadsAs Decimal.scientific
  simp only [hcons]
  generalize hlead : d.power + ((c :: cs).length : ℕ) - 1 = lead
  have hmark : fraction (exponentChars lead ++ rest) = some (none, exponentChars lead ++ rest) :=
    fraction_none fun e he => by
      obtain rfl := Option.some.inj he
      decide
  cases cs with
  | nil =>
      have hread := numeral_exponent negative lead hwhole (noDigit_cons rfl) hmark hrest
      refine ⟨d.digits, lead, ?_, ?_⟩
      · have hpower : lead = d.power := by
          rw [← hlead]
          simp
        rw [hpower, Decimal.value]
      · simpa [exponentChars, hvalue] using hread
  | cons e es =>
      have hpart : fraction ('.' :: ((e :: es) ++ (exponentChars lead ++ rest))) =
          some (some (e :: es), exponentChars lead ++ rest) := fraction_point (by simp)
        (fun x hx => hdigits x (List.mem_cons_of_mem _ hx)) (noDigit_cons rfl)
      have hread := numeral_exponent negative lead hwhole (noDigit_cons rfl) hpart hrest
      refine ⟨d.digits, lead - (e :: es).length, ?_, ?_⟩
      · have hpower : lead - (e :: es).length = d.power := by
          rw [← hlead]
          simp only [List.length_cons]
          omega
        rw [hpower, Decimal.value]
      · have hvalue' : digitsValue ([c] ++ e :: es) = d.digits := hvalue
        rw [Option.getD_some, hvalue'] at hread
        simpa [exponentChars] using hread

/-- **The text of a decimal is read as a decimal of the same value**; a zero has no power of its own. -/
theorem readsAs_interchange (hzero : d.digits = 0 → d.power = 0) (hrest : Ends rest) :
    ReadsAs negative d d.interchange rest := by
  unfold Decimal.interchange
  simp only
  split
  · by_cases hpower : 0 ≤ d.power
    · exact readsAs_whole hzero hpower hrest
    · by_cases hplaces : (-d.power).toNat < (Decimal.digitChars d.digits).length
      · refine readsAs_inside (by omega) hplaces (fun hz => ?_) hrest
        have := hzero hz
        omega
      · exact readsAs_behind (by omega) (by omega) hrest
  · next hnot => exact readsAs_scientific (fun hz => hnot (.inl hz)) hrest

/-- **A finite float is read as it is written.** -/
theorem numeral_float {x : Binary64} (hx : x.IsFinite) (hrest : Ends rest) :
    numeral (x.interchangeText ++ rest) = some (.number (some (.float x)), rest) := by
  have hreads := Binary64.reads_shortest .even x
  obtain ⟨digits, power, hvalue, hread⟩ : ReadsAs x.isNegative _ _ rest :=
    readsAs_interchange (Binary64.power_shortest hx .even) hrest
  rw [← hvalue] at hreads
  have hfinite : finite? x = some (.float x) := if_pos hx
  rw [Binary64.ofScientific_of_reads hx hreads, hfinite] at hread
  rw [Binary64.interchangeText, List.append_assoc]
  exact hread

end Source

end Conform
