/-
**The offset cut off the bytes of a text.**

A text is stored in UTF-8, and an offset has six bytes.  So it can be looked for without decoding: in
the last six bytes, if the text has so many and a character begins with the first of them.  Every cut
and every look-up in bytes can go wrong, behind the end or within a character; here each of them is a
step that may fail.  None of them ever does, and what is found is what is found among the characters:
the bytes of an offset are those of ASCII characters, which no other character contains.

Main definitions:

* `Utf8.bytes` — the bytes of a text;
* `Utf8.cutAt`, `Utf8.byteAt` — a cut and a look-up, which may fail;
* `OffsetMark.splitBytes` — the search for an offset in the last six bytes;
* `OffsetMark.EndsBytes` — the last six bytes are those of an offset.

Main results:

* `Utf8.eq_append_of_ascii` — ASCII bytes at the end are the last characters;
* `OffsetMark.splitBytes_eq` — **the search never fails, and finds what the characters say**;
* `OffsetMark.endsBytes_iff` — a text ends with the bytes of an offset if it ends with its characters.
-/

import Conform.Proofs.Calendar.Offset

set_option relaxedAutoImplicit false
set_option autoImplicit false

namespace Conform

namespace Utf8

/-! ### Bytes of characters -/

/-- The bytes of a text. -/
def bytes (s : String) : List UInt8 := s.toUTF8.data.toList

/-- The bytes of characters. -/
def encode (cs : List Char) : List UInt8 := cs.flatMap String.utf8EncodeChar

/-- The bytes of a text are those of its characters. -/
theorem bytes_eq_encode (s : String) : bytes s = encode s.toList := by
  have hencode : s.toList.utf8Encode = s.toUTF8 := String.utf8Encode_toList
  rw [bytes, ← hencode, List.utf8Encode, List.toList_data_toByteArray]
  rfl

theorem encode_append (cs cs' : List Char) : encode (cs ++ cs') = encode cs ++ encode cs' :=
  List.flatMap_append

theorem encodeChar_ascii {c : Char} (h : c.toNat < 128) : String.utf8EncodeChar c = [c.toUInt8] := by
  refine String.utf8EncodeChar_eq_singleton (Char.utf8Size_eq_one_iff.2 ?_)
  rw [UInt32.le_iff_toNat_le]
  exact Nat.le_of_lt_succ h

/-- The bytes of a character beyond ASCII lie beyond ASCII. -/
theorem le_of_mem_encodeChar {c : Char} (h : 128 ≤ c.toNat) {b : UInt8}
    (hb : b ∈ String.utf8EncodeChar c) : 128 ≤ b.toNat := by
  have hbeyond : ∀ n, 128 ≤ n % 256 → 128 ≤ (UInt8.ofNat n).toNat := fun n hn => by simpa using hn
  have hval : c.val.toNat = c.toNat := rfl
  simp only [String.utf8EncodeChar, hval] at hb
  split at hb
  · omega
  split at hb
  · simp only [List.mem_cons, List.not_mem_nil, or_false] at hb
    rcases hb with rfl | rfl <;> exact hbeyond _ (by omega)
  split at hb
  · simp only [List.mem_cons, List.not_mem_nil, or_false] at hb
    rcases hb with rfl | rfl | rfl <;> exact hbeyond _ (by omega)
  · simp only [List.mem_cons, List.not_mem_nil, or_false] at hb
    rcases hb with rfl | rfl | rfl | rfl <;> exact hbeyond _ (by omega)

theorem toUInt8_ofUInt8 (b : UInt8) : (Char.ofUInt8 b).toUInt8 = b := by
  simp [Char.toUInt8, Char.ofUInt8]

theorem ofUInt8_toUInt8 {c : Char} (h : c.toNat < 128) : Char.ofUInt8 c.toUInt8 = c := by
  refine Char.ext (UInt32.toNat_inj.1 ?_)
  have hval : c.val.toNat < 128 := h
  simp only [Char.toUInt8, Char.ofUInt8, UInt8.toNat_toUInt32, UInt32.toNat_toUInt8]
  omega

/-- An ASCII byte at the end is the last character. -/
theorem eq_append_of_ascii_byte {cs : List Char} {front : List UInt8} {b : UInt8} (hb : b.toNat < 128)
    (h : encode cs = front ++ [b]) : ∃ cs', cs = cs' ++ [Char.ofUInt8 b] ∧ encode cs' = front := by
  rcases List.eq_nil_or_concat cs with rfl | ⟨init, c, rfl⟩
  · exact absurd h.symm (List.append_ne_nil_of_right_ne_nil _ (List.cons_ne_nil _ _))
  · have hlast : encode init ++ String.utf8EncodeChar c = front ++ [b] := by
      rw [List.concat_eq_append, encode_append] at h
      simpa [encode] using h
    by_cases hc : c.toNat < 128
    · rw [encodeChar_ascii hc] at hlast
      obtain ⟨hfront, hbyte⟩ := List.append_inj' hlast rfl
      refine ⟨init, ?_, hfront⟩
      rw [← List.singleton_inj.1 hbyte, ofUInt8_toUInt8 hc, List.concat_eq_append]
    · -- otherwise the last byte would be one of a character beyond ASCII
      have hmem : b ∈ String.utf8EncodeChar c := by
        obtain ⟨init', b', hbytes⟩ :=
          (List.eq_nil_or_concat (String.utf8EncodeChar c)).resolve_left String.utf8EncodeChar_ne_nil
        rw [hbytes, List.concat_eq_append, ← List.append_assoc] at hlast
        obtain ⟨-, hbyte⟩ := List.append_inj' hlast rfl
        rw [hbytes, ← List.singleton_inj.1 hbyte]
        simp
      have hbeyond := le_of_mem_encodeChar (Nat.le_of_not_lt hc) hmem
      omega

/-- ASCII bytes at the end are the last characters. -/
theorem eq_append_of_ascii {cs : List Char} {front ascii : List UInt8}
    (hascii : ∀ b ∈ ascii, b.toNat < 128) (h : encode cs = front ++ ascii) :
    ∃ cs', cs = cs' ++ ascii.map Char.ofUInt8 ∧ encode cs' = front := by
  induction ascii using List.reverseRecOn generalizing cs with
  | nil => exact ⟨cs, by simp, by simpa using h⟩
  | append_singleton ascii b ih =>
      rw [← List.append_assoc] at h
      obtain ⟨cs', rfl, hrest⟩ := eq_append_of_ascii_byte (hascii b (by simp)) h
      obtain ⟨cs'', rfl, hfront⟩ := ih (fun b hb => hascii b (by simp [hb])) hrest
      exact ⟨cs'', by simp, hfront⟩

/-! ### Cuts and look-ups -/

/-- What goes wrong where bytes are cut or looked up. -/
inductive Fault where
  /-- behind the end -/
  | outOfBounds
  /-- within a character -/
  | offBoundary
deriving DecidableEq

/-- Does a character begin with the byte? -/
def beginsChar (b : UInt8) : Bool := b < 0x80 || 0xC0 ≤ b

/-- Does a character begin at an index, or do the bytes end there? -/
def isBoundary (bytes : List UInt8) (i : Nat) : Bool :=
  match bytes[i]? with
  | some b => beginsChar b
  | none => i = bytes.length

/-- The bytes in front of an index, and those from it on. -/
def cutAt (bytes : List UInt8) (i : Nat) : Except Fault (List UInt8 × List UInt8) :=
  if bytes.length < i then .error .outOfBounds
  else if isBoundary bytes i then .ok (bytes.take i, bytes.drop i)
  else .error .offBoundary

/-- The byte at an index. -/
def byteAt (bytes : List UInt8) (i : Nat) : Except Fault UInt8 :=
  match bytes[i]? with
  | some b => .ok b
  | none => .error .outOfBounds

end Utf8

namespace OffsetMark

/-! ### The search in bytes -/

/-- Is the byte an ASCII digit? -/
def isDigitByte (b : UInt8) : Bool := 0x30 ≤ b && b ≤ 0x39

/-- The number of two digits. -/
def pairValue (tens ones : UInt8) : Int := (tens.toNat - 0x30) * 10 + (ones.toNat - 0x30)

/-- Cuts off an offset in the last six bytes: what is left, and the offset in seconds. -/
def splitBytes (bytes : List UInt8) : Except Utf8.Fault (Option (List UInt8 × Int)) :=
  if bytes.length < 6 || !Utf8.isBoundary bytes (bytes.length - 6) then .ok none
  else do
    let (rest, suffix) ← Utf8.cutAt bytes (bytes.length - 6)
    let sign ← Utf8.byteAt suffix 0
    if sign ≠ 0x2B ∧ sign ≠ 0x2D then .ok none
    else do
      let h₁ ← Utf8.byteAt suffix 1
      let h₀ ← Utf8.byteAt suffix 2
      let m₁ ← Utf8.byteAt suffix 4
      let m₀ ← Utf8.byteAt suffix 5
      let colon ← Utf8.byteAt suffix 3
      if colon ≠ 0x3A ∨ ¬ [h₁, h₀, m₁, m₀].all isDigitByte then .ok none
      else
        let size := pairValue h₁ h₀ * 3600 + pairValue m₁ m₀ * 60
        .ok (some (rest, if sign = 0x2D then -size else size))

/-- The bytes of a mark. -/
def bytes (mark : OffsetMark) : List UInt8 := mark.chars.map Char.toUInt8

/-- The last six bytes, of which the first begins a character, are those of an offset. -/
def EndsBytes (bytes : List UInt8) : Prop :=
  6 ≤ bytes.length ∧ Utf8.isBoundary bytes (bytes.length - 6) = true ∧
    ∃ mark : OffsetMark, bytes.drop (bytes.length - 6) = mark.bytes

/-! ### Marks as bytes -/

theorem toNat_of_mem_chars (mark : OffsetMark) {c : Char} (h : c ∈ mark.chars) : c.toNat < 128 := by
  have hdigit : ∀ c, Calendar.isDigit c = true → c.toNat < 128 := fun c hc => by
    have hbounds := Calendar.isDigit_iff.1 hc
    omega
  simp only [chars, List.mem_cons, List.not_mem_nil, or_false] at h
  rcases h with rfl | rfl | rfl | rfl | rfl | rfl
  · rcases mark.sign_eq with heq | heq <;> rw [heq] <;> decide
  · exact hdigit _ (mark.isDigit_of_mem (by simp))
  · exact hdigit _ (mark.isDigit_of_mem (by simp))
  · decide
  · exact hdigit _ (mark.isDigit_of_mem (by simp))
  · exact hdigit _ (mark.isDigit_of_mem (by simp))

theorem encode_chars (mark : OffsetMark) : Utf8.encode mark.chars = mark.bytes := by
  have hall : ∀ cs : List Char, (∀ c ∈ cs, c.toNat < 128) →
      Utf8.encode cs = cs.map Char.toUInt8 := by
    intro cs hcs
    induction cs with
    | nil => rfl
    | cons c cs ih =>
        obtain ⟨hc, hcs⟩ := List.forall_mem_cons.1 hcs
        have hhead : Utf8.encode (c :: cs) = String.utf8EncodeChar c ++ Utf8.encode cs := rfl
        rw [hhead, ih hcs, Utf8.encodeChar_ascii hc]
        rfl
  exact hall _ fun c => mark.toNat_of_mem_chars

/-- A digit and its byte have the same value. -/
theorem toNat_digit {c : Char} (h : Calendar.isDigit c = true) :
    isDigitByte c.toUInt8 = true ∧ c.toUInt8.toNat = c.toNat := by
  have hbounds := Calendar.isDigit_iff.1 h
  have hsame : c.toUInt8.toNat = c.toNat := by
    have hval : c.val.toNat = c.toNat := rfl
    simp only [Char.toUInt8, UInt32.toNat_toUInt8, hval]
    omega
  refine ⟨?_, hsame⟩
  rw [isDigitByte, Bool.and_eq_true, decide_eq_true_eq, decide_eq_true_eq, UInt8.le_iff_toNat_le,
    UInt8.le_iff_toNat_le, hsame]
  exact hbounds

theorem pairValue_digits {tens ones : Char} (htens : Calendar.isDigit tens = true)
    (hones : Calendar.isDigit ones = true) :
    pairValue tens.toUInt8 ones.toUInt8 = Calendar.digitsValue [tens, ones] := by
  obtain ⟨-, htens'⟩ := toNat_digit htens
  obtain ⟨-, hones'⟩ := toNat_digit hones
  have hbounds := Calendar.isDigit_iff.1 htens
  have hbounds' := Calendar.isDigit_iff.1 hones
  rw [pairValue, htens', hones']
  simp only [Calendar.digitsValue, List.foldl_cons, List.foldl_nil]
  omega

/-- A byte that is a digit is the byte of one. -/
theorem isDigit_ofUInt8 {b : UInt8} (h : isDigitByte b = true) :
    Calendar.isDigit (Char.ofUInt8 b) = true := by
  rw [isDigitByte, Bool.and_eq_true, decide_eq_true_eq, decide_eq_true_eq, UInt8.le_iff_toNat_le,
    UInt8.le_iff_toNat_le] at h
  have hsame : (Char.ofUInt8 b).toNat = b.toNat := UInt8.toNat_toUInt32 b
  rw [Calendar.isDigit_iff, hsame]
  exact h

/-! ### What the search finds -/

/-- The search in bytes of which the sixth last begins a character. -/
theorem splitBytes_append (front : List UInt8) {b₀ b₁ b₂ b₃ b₄ b₅ : UInt8}
    (hbegins : Utf8.beginsChar b₀ = true) :
    splitBytes (front ++ [b₀, b₁, b₂, b₃, b₄, b₅]) =
      if b₀ ≠ 0x2B ∧ b₀ ≠ 0x2D then .ok none
      else if b₃ ≠ 0x3A ∨ ¬ [b₁, b₂, b₄, b₅].all isDigitByte then .ok none
      else .ok (some (front, if b₀ = 0x2D then -(pairValue b₁ b₂ * 3600 + pairValue b₄ b₅ * 60)
        else pairValue b₁ b₂ * 3600 + pairValue b₄ b₅ * 60)) := by
  have hlength : (front ++ [b₀, b₁, b₂, b₃, b₄, b₅]).length = front.length + 6 := by simp
  have hboundary : Utf8.isBoundary (front ++ [b₀, b₁, b₂, b₃, b₄, b₅]) front.length = true := by
    simp [Utf8.isBoundary, hbegins]
  have hcut : Utf8.cutAt (front ++ [b₀, b₁, b₂, b₃, b₄, b₅]) front.length =
      .ok (front, [b₀, b₁, b₂, b₃, b₄, b₅]) := by
    rw [Utf8.cutAt, if_neg (by omega), if_pos hboundary, List.take_left, List.drop_left]
  have hguard : (decide (front.length + 6 < 6) || !true) = false := by simp
  rw [splitBytes, hlength, Nat.add_sub_cancel, hboundary, hguard, if_neg Bool.false_ne_true, hcut]
  rfl

/-- An offset at the end is found. -/
theorem splitBytes_mark (front : List UInt8) (mark : OffsetMark) :
    splitBytes (front ++ mark.bytes) = .ok (some (front, mark.seconds)) := by
  have hdigit : ∀ c ∈ [mark.m₀, mark.m₁, mark.h₀, mark.h₁], Calendar.isDigit c = true :=
    fun c => mark.isDigit_of_mem
  simp only [List.forall_mem_cons] at hdigit
  obtain ⟨hm₀, hm₁, hh₀, hh₁, -⟩ := hdigit
  have hall : [mark.h₁.toUInt8, mark.h₀.toUInt8, mark.m₁.toUInt8, mark.m₀.toUInt8].all
      isDigitByte = true := by
    simp [toNat_digit hm₀, toNat_digit hm₁, toNat_digit hh₀, toNat_digit hh₁]
  have hcolon : ¬ ((0x3A : UInt8) ≠ 0x3A ∨
      ¬ [mark.h₁.toUInt8, mark.h₀.toUInt8, mark.m₁.toUInt8, mark.m₀.toUInt8].all isDigitByte) :=
    fun h => h.elim (fun hne => hne rfl) fun hnot => hnot hall
  have hbytes : mark.bytes = [mark.sign.toUInt8, mark.h₁.toUInt8, mark.h₀.toUInt8, 0x3A,
      mark.m₁.toUInt8, mark.m₀.toUInt8] := rfl
  have hseconds : pairValue mark.h₁.toUInt8 mark.h₀.toUInt8 * 3600 +
      pairValue mark.m₁.toUInt8 mark.m₀.toUInt8 * 60 = mark.minutes * 60 := by
    rw [pairValue_digits hh₁ hh₀, pairValue_digits hm₁ hm₀, minutes]
    push_cast
    ring
  rw [hbytes]
  rcases mark.sign_eq with hsign | hsign
  · rw [splitBytes_append front (by rw [hsign]; decide), if_neg (by rw [hsign]; decide),
      if_neg hcolon, hseconds, if_neg (by rw [hsign]; decide), seconds,
      if_neg (by rw [hsign]; decide)]
  · rw [splitBytes_append front (by rw [hsign]; decide), if_neg (by rw [hsign]; decide),
      if_neg hcolon, hseconds, if_pos (by rw [hsign]; decide), seconds, if_pos hsign]

theorem length_bytes (mark : OffsetMark) : mark.bytes.length = 6 := rfl

/-- Nothing is found, or an offset ends the bytes; no cut and no look-up fails. -/
theorem splitBytes_cases (bytes : List UInt8) :
    splitBytes bytes = .ok none ∨ ∃ front, ∃ mark : OffsetMark, bytes = front ++ mark.bytes := by
  by_cases hguard : (decide (bytes.length < 6) || !Utf8.isBoundary bytes (bytes.length - 6)) = true
  · exact .inl (if_pos hguard)
  rw [Bool.or_eq_true, not_or, decide_eq_true_eq, Bool.not_eq_true', Bool.not_eq_false] at hguard
  obtain ⟨hlength, hboundary⟩ := hguard
  have hsix : (bytes.drop (bytes.length - 6)).length = 6 := by
    rw [List.length_drop]
    omega
  have hsplit : bytes = bytes.take (bytes.length - 6) ++ bytes.drop (bytes.length - 6) :=
    (List.take_append_drop ..).symm
  obtain ⟨b₀, b₁, b₂, b₃, b₄, b₅, hlast⟩ :
      ∃ b₀ b₁ b₂ b₃ b₄ b₅, bytes.drop (bytes.length - 6) = [b₀, b₁, b₂, b₃, b₄, b₅] := by
    match bytes.drop (bytes.length - 6), hsix with
    | [b₀, b₁, b₂, b₃, b₄, b₅], _ => exact ⟨b₀, b₁, b₂, b₃, b₄, b₅, rfl⟩
  have hbegins : Utf8.beginsChar b₀ = true := by
    have hat : bytes[bytes.length - 6]? = some b₀ := by
      have hhead : (bytes.drop (bytes.length - 6))[0]? = some b₀ := by rw [hlast]; rfl
      rwa [List.getElem?_drop, Nat.add_zero] at hhead
    rwa [Utf8.isBoundary, hat] at hboundary
  rw [hlast] at hsplit
  generalize bytes.take (bytes.length - 6) = front at hsplit
  subst hsplit
  rw [splitBytes_append front hbegins]
  split
  · exact .inl rfl
  next hsign =>
  split
  · exact .inl rfl
  next hform =>
  -- the bytes are those of an offset
  rw [not_or, not_not, not_not] at hform
  obtain ⟨rfl, hdigits⟩ := hform
  simp only [List.all_cons, List.all_nil, Bool.and_true, Bool.and_eq_true] at hdigits
  obtain ⟨hh₁, hh₀, hm₁, hm₀⟩ := hdigits
  have hsign' : Char.ofUInt8 b₀ = '+' ∨ Char.ofUInt8 b₀ = '-' := by
    by_cases hplus : b₀ = 0x2B
    · exact .inl (by rw [hplus]; decide)
    by_cases hminus : b₀ = 0x2D
    · exact .inr (by rw [hminus]; decide)
    · exact absurd ⟨hplus, hminus⟩ hsign
  refine .inr ⟨front, ⟨Char.ofUInt8 b₀, Char.ofUInt8 b₁, Char.ofUInt8 b₂, Char.ofUInt8 b₄,
    Char.ofUInt8 b₅, hsign', ?_⟩, ?_⟩
  · simp [isDigit_ofUInt8 hh₁, isDigit_ofUInt8 hh₀, isDigit_ofUInt8 hm₁, isDigit_ofUInt8 hm₀]
  · have hcolon : (':').toUInt8 = 0x3A := by decide
    simp [bytes, chars, Utf8.toUInt8_ofUInt8, hcolon]

/-- The bytes of an offset at the end are its characters. -/
theorem eq_append_of_bytes {cs : List Char} {front : List UInt8} {mark : OffsetMark}
    (h : Utf8.encode cs = front ++ mark.bytes) :
    ∃ naive, cs = naive ++ mark.chars ∧ Utf8.encode naive = front := by
  have hchars : mark.bytes.map Char.ofUInt8 = mark.chars := by
    rw [bytes, List.map_map]
    conv_rhs => rw [← List.map_id mark.chars]
    exact List.map_congr_left fun c hc => Utf8.ofUInt8_toUInt8 (mark.toNat_of_mem_chars hc)
  have hascii : ∀ b ∈ mark.bytes, b.toNat < 128 := by
    intro b hb
    obtain ⟨c, hc, rfl⟩ := List.mem_map.1 hb
    have hval : c.val.toNat < 128 := mark.toNat_of_mem_chars hc
    simp only [Char.toUInt8, UInt32.toNat_toUInt8]
    omega
  obtain ⟨naive, hcs, hfront⟩ := Utf8.eq_append_of_ascii hascii h
  rw [hchars] at hcs
  exact ⟨naive, hcs, hfront⟩

/-- **The search in the bytes of a text never fails, and finds what the characters say.** -/
theorem splitBytes_eq (s : String) :
    splitBytes (Utf8.bytes s) = .ok ((DateTime.splitOffset? s.toList).map fun found =>
      (Utf8.encode found.1, found.2)) := by
  rw [Utf8.bytes_eq_encode]
  cases hsplit : DateTime.splitOffset? s.toList with
  | some found =>
      obtain ⟨mark, heq, hoffset⟩ := DateTime.splitOffset?_eq_some_iff.1 hsplit
      rw [heq, Utf8.encode_append, encode_chars, splitBytes_mark, ← hoffset]
      rfl
  | none =>
      rcases splitBytes_cases (Utf8.encode s.toList) with hnone | ⟨front, mark, hbytes⟩
      · exact hnone
      · obtain ⟨naive, heq, -⟩ := eq_append_of_bytes hbytes
        rw [heq, DateTime.splitOffset?_mark] at hsplit
        cases hsplit

/-- A text ends with the bytes of an offset if it ends with the characters of one. -/
theorem endsBytes_iff {s : String} : EndsBytes (Utf8.bytes s) ↔
    ∃ naive, ∃ mark : OffsetMark, s.toList = naive ++ mark.chars := by
  rw [Utf8.bytes_eq_encode]
  constructor
  · rintro ⟨hlength, -, mark, hmark⟩
    have hsplit := (List.take_append_drop ((Utf8.encode s.toList).length - 6)
      (Utf8.encode s.toList)).symm
    rw [hmark] at hsplit
    obtain ⟨naive, heq, -⟩ := eq_append_of_bytes hsplit
    exact ⟨naive, mark, heq⟩
  · rintro ⟨naive, mark, heq⟩
    have hlength : (Utf8.encode naive ++ mark.bytes).length = (Utf8.encode naive).length + 6 := by
      rw [List.length_append, length_bytes]
    have hbegins : Utf8.beginsChar mark.sign.toUInt8 = true := by
      rcases mark.sign_eq with hsign | hsign <;> rw [hsign] <;> decide
    have hbytes : mark.bytes = mark.sign.toUInt8 :: (mark.chars.tail.map Char.toUInt8) := rfl
    rw [heq, Utf8.encode_append, encode_chars, EndsBytes, hlength, Nat.add_sub_cancel]
    refine ⟨by omega, ?_, mark, List.drop_left⟩
    simp [Utf8.isBoundary, hbytes, hbegins]

end OffsetMark

end Conform
