/-
**Sets of characters.**

A set is built from ranges of code points by union, intersection and complement; *folding* adds the
case variants of its members.  The properties that patterns name are such sets: general categories
and their groups, scripts, and a few yes-or-no properties, but not all that there are.  Names are
compared without regard to case, spaces, hyphens, underscores and a leading `is`.

Main definitions:

* `CharSet`, `CharSet.contains` — sets and membership;
* `CharSet.digit`, `CharSet.space`, `CharSet.word` — the sets of the shorthands;
* `CharSet.ascii?` — the sets named within brackets, such as `alpha`;
* `CharSet.property?`, `CharSet.propertyValue?` — the sets named by properties;
* `Text.isAlphabetic`, `Text.isNumeric` — letters and numbers of every script.
-/

import Conform.Text.Blank
import Conform.Text.CaseVariant
import Conform.Text.Category
import Conform.Text.Script

set_option relaxedAutoImplicit false
set_option autoImplicit false

namespace Conform

/-- A set of characters. -/
inductive CharSet where
  | ranges (rs : Text.Ranges)
  | union (a b : CharSet)
  | inter (a b : CharSet)
  | compl (a : CharSet)
  /-- everything that has a case variant in the set -/
  | folded (a : CharSet)
deriving DecidableEq, Repr

namespace CharSet

/-- Does the set hold the code point? -/
def contains : CharSet → Nat → Bool
  | ranges rs, n => Text.inRanges rs n
  | union a b, n => a.contains n || b.contains n
  | inter a b, n => a.contains n && b.contains n
  | compl a, n => !a.contains n
  | folded a, n => (Text.caseVariants n).any a.contains

/-- The set without members. -/
def empty : CharSet := ranges []

/-- One character. -/
def single (c : Char) : CharSet := ranges [(c.toNat, c.toNat)]

/-- The members of the one and not of the other. -/
def diff (a b : CharSet) : CharSet := inter a (compl b)

/-- The members of just one of the two. -/
def symmDiff (a b : CharSet) : CharSet := union (diff a b) (diff b a)

/-- The set itself, or its complement. -/
def negatedIf (negated : Bool) (a : CharSet) : CharSet := if negated then compl a else a

/-- The union of a list of sets. -/
def unions (sets : List CharSet) : CharSet := sets.foldr union empty

@[simp] theorem contains_single (c : Char) (n : Nat) :
    (single c).contains n = (c.toNat ≤ n && n ≤ c.toNat) := by
  simp [single, contains, Text.inRanges]

/-- The characters of seven bits. -/
def ascii : CharSet := ranges [(0x00, 0x7F)]

/-! ### Categories and shorthands -/

/-- Letters of any case and none. -/
def letter : CharSet :=
  unions ([Text.uppercaseLetter, Text.lowercaseLetter, Text.titlecaseLetter, Text.modifierLetter,
    Text.otherLetter].map ranges)

/-- Marks that combine with a base. -/
def mark : CharSet :=
  unions ([Text.nonspacingMark, Text.spacingMark, Text.enclosingMark].map ranges)

/-- Characters with a category. -/
def assigned : CharSet := unions (Text.categories.map fun entry => ranges entry.2)

/-- Marks and symbols that count as alphabetic without being letters. -/
def otherAlphabetic : Text.Ranges :=
  Text.readRanges [
    "345 363-36F 5B0-5BD 5BF 5C1-5C2 5C4-5C5 5C7 610-61A 64B-657 659-65F 670 6D6-6DC 6E1-6E4",
    "6E7-6E8 6ED 711 730-73F 7A6-7B0 816-817 81B-823 825-827 829-82C 897 8D4-8DF 8E3-8E9 8F0-903",
    "93A-93B 93E-94C 94E-94F 955-957 962-963 981-983 9BE-9C4 9C7-9C8 9CB-9CC 9D7 9E2-9E3 A01-A03",
    "A3E-A42 A47-A48 A4B-A4C A51 A70-A71 A75 A81-A83 ABE-AC5 AC7-AC9 ACB-ACC AE2-AE3 AFA-AFC",
    "B01-B03 B3E-B44 B47-B48 B4B-B4C B56-B57 B62-B63 B82 BBE-BC2 BC6-BC8 BCA-BCC BD7 C00-C04",
    "C3E-C44 C46-C48 C4A-C4C C55-C56 C62-C63 C81-C83 CBE-CC4 CC6-CC8 CCA-CCC CD5-CD6 CE2-CE3 CF3",
    "D00-D03 D3E-D44 D46-D48 D4A-D4C D57 D62-D63 D81-D83 DCF-DD4 DD6 DD8-DDF DF2-DF3 E31 E34-E3A",
    "E4D EB1 EB4-EB9 EBB-EBC ECD F71-F83 F8D-F97 F99-FBC 102B-1036 1038 103B-103E 1056-1059",
    "105E-1060 1062-1064 1067-106D 1071-1074 1082-108D 108F 109A-109D 1712-1713 1732-1733",
    "1752-1753 1772-1773 17B6-17C8 1885-1886 18A9 1920-192B 1930-1938 1A17-1A1B 1A55-1A5E",
    "1A61-1A74 1ABF-1AC0 1ACC-1ACE 1B00-1B04 1B35-1B43 1B80-1B82 1BA1-1BA9 1BAC-1BAD 1BE7-1BF1",
    "1C24-1C36 1DD3-1DF4 24B6-24E9 2DE0-2DFF A674-A67B A69E-A69F A802 A80B A823-A827 A880-A881",
    "A8B4-A8C3 A8C5 A8FF A926-A92A A947-A952 A980-A983 A9B4-A9BF A9E5 AA29-AA36 AA43 AA4C-AA4D",
    "AA7B-AA7D AAB0 AAB2-AAB4 AAB7-AAB8 AABE AAEB-AAEF AAF5 ABE3-ABEA FB1E 10376-1037A",
    "10A01-10A03 10A05-10A06 10A0C-10A0F 10D24-10D27 10D69 10EAB-10EAC 10EFA-10EFC 11000-11002",
    "11038-11045 11073-11074 11080-11082 110B0-110B8 110C2 11100-11102 11127-11132 11145-11146",
    "11180-11182 111B3-111BF 111CE-111CF 1122C-11234 11237 1123E 11241 112DF-112E8 11300-11303",
    "1133E-11344 11347-11348 1134B-1134C 11357 11362-11363 113B8-113C0 113C2 113C5 113C7-113CA",
    "113CC-113CD 11435-11441 11443-11445 114B0-114C1 115AF-115B5 115B8-115BE 115DC-115DD",
    "11630-1163E 11640 116AB-116B5 1171D-1172A 1182C-11838 11930-11935 11937-11938 1193B-1193C",
    "11940 11942 119D1-119D7 119DA-119DF 119E4 11A01-11A0A 11A35-11A39 11A3B-11A3E 11A51-11A5B",
    "11A8A-11A97 11B60-11B67 11C2F-11C36 11C38-11C3E 11C92-11CA7 11CA9-11CB6 11D31-11D36 11D3A",
    "11D3C-11D3D 11D3F-11D41 11D43 11D47 11D8A-11D8E 11D90-11D91 11D93-11D96 11EF3-11EF6",
    "11F00-11F01 11F03 11F34-11F3A 11F3E-11F40 1611E-1612E 16F4F 16F51-16F87 16F8F-16F92",
    "16FF0-16FF1 1BC9E 1E000-1E006 1E008-1E018 1E01B-1E021 1E023-1E024 1E026-1E02A 1E08F 1E6E3",
    "1E6E6 1E6EE-1E6EF 1E6F5 1E947 1F130-1F149 1F150-1F169 1F170-1F189"]

/-- The property `Alphabetic`. -/
def alphabetic : CharSet :=
  union letter (union (ranges Text.letterNumber) (ranges otherAlphabetic))

/-- The property `White_Space`. -/
def space : CharSet := ranges Text.blankRanges

/-- Decimal digits of every script. -/
def digit : CharSet := ranges Text.decimalNumber

/-- Joiners that stand within words. -/
def joinControl : CharSet := ranges [(0x200C, 0x200D)]

/-- What words are made of: alphabetic characters, marks, digits, connectors and joiners. -/
def word : CharSet :=
  unions [letter, digit, mark, alphabetic, ranges Text.connectorPunctuation, joinControl]

end CharSet

namespace Text

/-- Is the character alphabetic? -/
def isAlphabetic (c : Char) : Bool := CharSet.alphabetic.contains c.toNat

/-- Is the character a number: a digit, a letter number or another number? -/
def isNumeric (c : Char) : Bool :=
  inRanges decimalNumber c.toNat || inRanges letterNumber c.toNat || inRanges otherNumber c.toNat

end Text

namespace CharSet

/-! ### Seven-bit sets -/

/-- The sets of seven-bit characters that a pair of brackets and colons names. -/
def asciiSets : List (String × CharSet) :=
  [("alnum", ranges [(0x30, 0x39), (0x41, 0x5A), (0x61, 0x7A)]),
   ("alpha", ranges [(0x41, 0x5A), (0x61, 0x7A)]),
   ("ascii", ascii),
   ("blank", ranges [(0x09, 0x09), (0x20, 0x20)]),
   ("cntrl", ranges [(0x00, 0x1F), (0x7F, 0x7F)]),
   ("digit", ranges [(0x30, 0x39)]),
   ("graph", ranges [(0x21, 0x7E)]),
   ("lower", ranges [(0x61, 0x7A)]),
   ("print", ranges [(0x20, 0x7E)]),
   ("punct", ranges [(0x21, 0x2F), (0x3A, 0x40), (0x5B, 0x60), (0x7B, 0x7E)]),
   ("space", ranges [(0x09, 0x0D), (0x20, 0x20)]),
   ("upper", ranges [(0x41, 0x5A)]),
   ("word", ranges [(0x30, 0x39), (0x41, 0x5A), (0x5F, 0x5F), (0x61, 0x7A)]),
   ("xdigit", ranges [(0x30, 0x39), (0x41, 0x46), (0x61, 0x66)])]

/-- The seven-bit set of a name. -/
def ascii? (name : String) : Option CharSet := asciiSets.lookup name

/-- Seven-bit digits, blanks and word characters. -/
def asciiDigit : CharSet := ranges [(0x30, 0x39)]

/-- Seven-bit blanks. -/
def asciiSpace : CharSet := ranges [(0x09, 0x0D), (0x20, 0x20)]

/-- Seven-bit word characters. -/
def asciiWord : CharSet := ranges [(0x30, 0x39), (0x41, 0x5A), (0x5F, 0x5F), (0x61, 0x7A)]

/-! ### Properties by name -/

/-- The name without case, spaces, hyphens, underscores and a leading `is`; what is not of seven bits
is dropped.  The name `isc` keeps its beginning. -/
def plainName (name : List Char) : String :=
  let lower := name.map Char.toLower
  let isThere := lower.take 2 = ['i', 's']
  let kept := (if isThere then lower.drop 2 else lower).filter fun c =>
    c ≠ ' ' && c ≠ '_' && c ≠ '-' && c.toNat ≤ 0x7F
  if isThere && kept = ['c'] then "isc" else String.ofList kept

/-- The groups of categories, and the sets that count as categories without being one. -/
def groups : List (List String × CharSet) :=
  [(["lc", "casedletter"],
      unions ([Text.uppercaseLetter, Text.lowercaseLetter, Text.titlecaseLetter].map ranges)),
   (["l", "letter"], letter),
   (["m", "mark", "combiningmark"], mark),
   (["n", "number"],
      unions ([Text.decimalNumber, Text.letterNumber, Text.otherNumber].map ranges)),
   (["p", "punctuation", "punct"],
      unions ([Text.connectorPunctuation, Text.dashPunctuation, Text.openPunctuation,
        Text.closePunctuation, Text.initialPunctuation, Text.finalPunctuation,
        Text.otherPunctuation].map ranges)),
   (["s", "symbol"],
      unions ([Text.mathSymbol, Text.currencySymbol, Text.modifierSymbol,
        Text.otherSymbol].map ranges)),
   (["z", "separator"],
      unions ([Text.spaceSeparator, Text.lineSeparator, Text.paragraphSeparator].map ranges)),
   (["c", "other"],
      unions [ranges Text.control, ranges Text.formatting, ranges Text.privateUse,
        compl assigned]),
   (["cn", "unassigned"], compl assigned),
   (["any"], compl empty),
   (["assigned"], assigned),
   (["ascii"], ascii)]

/-- The general category, or group of categories, of a plain name. -/
def category? (name : String) : Option CharSet :=
  match Text.categories.find? fun entry => entry.1.contains name with
  | some entry => some (ranges entry.2)
  | none => (groups.find? fun entry => entry.1.contains name).map fun entry => entry.2

/-- Lowercase characters that are no lowercase letters. -/
def otherLowercase : Text.Ranges :=
  Text.readRanges [
    "AA BA 2B0-2B8 2C0-2C1 2E0-2E4 345 37A 10FC 1D2C-1D6A 1D78 1D9B-1DBF 2071 207F 2090-209C",
    "2170-217F 24D0-24E9 2C7C-2C7D A69C-A69D A770 A7F1-A7F4 A7F8-A7F9 AB5C-AB5F AB69 10780",
    "10783-10785 10787-107B0 107B2-107BA 1E030-1E06D"]

/-- Uppercase characters that are no uppercase letters. -/
def otherUppercase : Text.Ranges :=
  Text.readRanges [
    "2160-216F 24B6-24CF 1F130-1F149 1F150-1F169 1F170-1F189"]

/-- Yes-or-no properties as written: names and lines of ranges. -/
def binaryTable : List (List String × List String) :=
  [(["asciihexdigit", "ahex"],
    [
     "30-39 41-46 61-66"]),
   (["hexdigit", "hex"],
    [
     "30-39 41-46 61-66 FF10-FF19 FF21-FF26 FF41-FF46"]),
   (["dash"],
    [
     "2D 58A 5BE 1400 1806 2010-2015 2053 207B 208B 2212 2E17 2E1A 2E3A-2E3B 2E40 2E5D 301C 3030",
     "30A0 FE31-FE32 FE58 FE63 FF0D 10D6E 10EAD"]),
   (["ideographic", "ideo"],
    [
     "3006-3007 3021-3029 3038-303A 3400-4DBF 4E00-9FFF F900-FA6D FA70-FAD9 16FE4 16FF2-16FF6",
     "17000-18CD5 18CFF-18D1E 18D80-18DF2 1B170-1B2FB 20000-2A6DF 2A700-2B81D 2B820-2CEAD",
     "2CEB0-2EBE0 2EBF0-2EE5D 2F800-2FA1D 30000-3134A 31350-33479"]),
   (["emoji"],
    [
     "23 2A 30-39 A9 AE 203C 2049 2122 2139 2194-2199 21A9-21AA 231A-231B 2328 23CF 23E9-23F3",
     "23F8-23FA 24C2 25AA-25AB 25B6 25C0 25FB-25FE 2600-2604 260E 2611 2614-2615 2618 261D 2620",
     "2622-2623 2626 262A 262E-262F 2638-263A 2640 2642 2648-2653 265F-2660 2663 2665-2666 2668",
     "267B 267E-267F 2692-2697 2699 269B-269C 26A0-26A1 26A7 26AA-26AB 26B0-26B1 26BD-26BE",
     "26C4-26C5 26C8 26CE-26CF 26D1 26D3-26D4 26E9-26EA 26F0-26F5 26F7-26FA 26FD 2702 2705",
     "2708-270D 270F 2712 2714 2716 271D 2721 2728 2733-2734 2744 2747 274C 274E 2753-2755 2757",
     "2763-2764 2795-2797 27A1 27B0 27BF 2934-2935 2B05-2B07 2B1B-2B1C 2B50 2B55 3030 303D 3297",
     "3299 1F004 1F0CF 1F170-1F171 1F17E-1F17F 1F18E 1F191-1F19A 1F1E6-1F1FF 1F201-1F202 1F21A",
     "1F22F 1F232-1F23A 1F250-1F251 1F300-1F321 1F324-1F393 1F396-1F397 1F399-1F39B 1F39E-1F3F0",
     "1F3F3-1F3F5 1F3F7-1F4FD 1F4FF-1F53D 1F549-1F54E 1F550-1F567 1F56F-1F570 1F573-1F57A 1F587",
     "1F58A-1F58D 1F590 1F595-1F596 1F5A4-1F5A5 1F5A8 1F5B1-1F5B2 1F5BC 1F5C2-1F5C4 1F5D1-1F5D3",
     "1F5DC-1F5DE 1F5E1 1F5E3 1F5E8 1F5EF 1F5F3 1F5FA-1F64F 1F680-1F6C5 1F6CB-1F6D2 1F6D5-1F6D8",
     "1F6DC-1F6E5 1F6E9 1F6EB-1F6EC 1F6F0 1F6F3-1F6FC 1F7E0-1F7EB 1F7F0 1F90C-1F93A 1F93C-1F945",
     "1F947-1F9FF 1FA70-1FA7C 1FA80-1FA8A 1FA8E-1FAC6 1FAC8 1FACD-1FADC 1FADF-1FAEA 1FAEF-1FAF8"]),
   (["math"],
    [
     "2B 3C-3E 5E 7C 7E AC B1 D7 F7 3D0-3D2 3D5 3F0-3F1 3F4-3F6 606-608 2016 2032-2034 2040 2044",
     "2052 2061-2064 207A-207E 208A-208E 20D0-20DC 20E1 20E5-20E6 20EB-20EF 2102 2107 210A-2113",
     "2115 2118-211D 2124 2128-2129 212C-212D 212F-2131 2133-2138 213C-2149 214B 2190-21A7",
     "21A9-21AE 21B0-21B1 21B6-21B7 21BC-21DB 21DD 21E4-21E5 21F4-22FF 2308-230B 2320-2321 237C",
     "239B-23B5 23B7 23D0 23DC-23E2 25A0-25A1 25AE-25B7 25BC-25C1 25C6-25C7 25CA-25CB 25CF-25D3",
     "25E2 25E4 25E7-25EC 25F8-25FF 2605-2606 2640 2642 2660-2663 266D-266F 27C0-27FF 2900-2AFF",
     "2B30-2B44 2B47-2B4C FB29 FE61-FE66 FE68 FF0B FF1C-FF1E FF3C FF3E FF5C FF5E FFE2 FFE9-FFEC",
     "10D8E-10D8F 1CEF0 1D400-1D454 1D456-1D49C 1D49E-1D49F 1D4A2 1D4A5-1D4A6 1D4A9-1D4AC",
     "1D4AE-1D4B9 1D4BB 1D4BD-1D4C3 1D4C5-1D505 1D507-1D50A 1D50D-1D514 1D516-1D51C 1D51E-1D539",
     "1D53B-1D53E 1D540-1D544 1D546 1D54A-1D550 1D552-1D6A5 1D6A8-1D7CB 1D7CE-1D7FF 1EE00-1EE03",
     "1EE05-1EE1F 1EE21-1EE22 1EE24 1EE27 1EE29-1EE32 1EE34-1EE37 1EE39 1EE3B 1EE42 1EE47 1EE49",
     "1EE4B 1EE4D-1EE4F 1EE51-1EE52 1EE54 1EE57 1EE59 1EE5B 1EE5D 1EE5F 1EE61-1EE62 1EE64",
     "1EE67-1EE6A 1EE6C-1EE72 1EE74-1EE77 1EE79-1EE7C 1EE7E 1EE80-1EE89 1EE8B-1EE9B 1EEA1-1EEA3",
     "1EEA5-1EEA9 1EEAB-1EEBB 1EEF0-1EEF1 1F8D0-1F8D8"]),
   (["quotationmark", "qmark"],
    [
     "22 27 AB BB 2018-201F 2039-203A 2E42 300C-300F 301D-301F FE41-FE44 FF02 FF07 FF62-FF63"]),
   (["bidicontrol", "bidic"],
    [
     "61C 200E-200F 202A-202E 2066-2069"]),
   (["regionalindicator", "ri"],
    [
     "1F1E6-1F1FF"]),
   (["variationselector", "vs"],
    [
     "180B-180D 180F FE00-FE0F E0100-E01EF"]),
   (["noncharactercodepoint", "nchar"],
    [
     "FDD0-FDEF FFFE-FFFF 1FFFE-1FFFF 2FFFE-2FFFF 3FFFE-3FFFF 4FFFE-4FFFF 5FFFE-5FFFF 6FFFE-6FFFF",
     "7FFFE-7FFFF 8FFFE-8FFFF 9FFFE-9FFFF AFFFE-AFFFF BFFFE-BFFFF CFFFE-CFFFF DFFFE-DFFFF",
     "EFFFE-EFFFF FFFFE-FFFFF 10FFFE-10FFFF"]),
   (["patternwhitespace", "patws"],
    [
     "9-D 20 85 200E-200F 2028-2029"]),
   (["unifiedideograph", "uideo"],
    [
     "3400-4DBF 4E00-9FFF FA0E-FA0F FA11 FA13-FA14 FA1F FA21 FA23-FA24 FA27-FA29 20000-2A6DF",
     "2A700-2B81D 2B820-2CEAD 2CEB0-2EBE0 2EBF0-2EE5D 30000-3134A 31350-33479"]),
   (["diacritic", "dia"],
    [
     "5E 60 A8 AF B4 B7-B8 2B0-34E 350-357 35D-362 374-375 37A 384-385 483-487 559 591-5BD 5BF",
     "5C1-5C2 5C4-5C5 5C7 64B-652 657-658 6DF-6E0 6E5-6E6 6EA-6EC 730-74A 7A6-7B0 7EB-7F5 818-819",
     "898-89F 8C9-8D2 8E3-8FE 93C 94D 951-954 971 9BC 9CD A3C A4D ABC ACD AFD-AFF B3C B4D B55 BCD",
     "C3C C4D CBC CCD D3B-D3C D4D DCA E3A E47-E4C E4E EBA EC8-ECC F18-F19 F35 F37 F39 F3E-F3F",
     "F82-F84 F86-F87 FC6 1037 1039-103A 1063-1064 1069-106D 1087-108D 108F 109A-109B 135D-135F",
     "1714-1715 1734 17C9-17D3 17DD 1939-193B 1A60 1A75-1A7C 1A7F 1AB0-1ABE 1AC1-1ACB 1ACF-1ADD",
     "1AE0-1AEB 1B34 1B44 1B6B-1B73 1BAA-1BAB 1BE6 1BF2-1BF3 1C36-1C37 1C78-1C7D 1CD0-1CE8 1CED",
     "1CF4 1CF7-1CF9 1D2C-1D6A 1D9B-1DBE 1DC4-1DCF 1DF5-1DFF 1FBD 1FBF-1FC1 1FCD-1FCF 1FDD-1FDF",
     "1FED-1FEF 1FFD-1FFE 2CEF-2CF1 2E2F 302A-302F 3099-309C 30FC A66F A67C-A67D A67F A69C-A69D",
     "A6F0-A6F1 A700-A721 A788-A78A A7F1 A7F8-A7F9 A806 A82C A8C4 A8E0-A8F1 A92B-A92E A953 A9B3",
     "A9C0 A9E5 AA7B-AA7D AABF-AAC2 AAF6 AB5B-AB5F AB69-AB6B ABEC-ABED FB1E FE20-FE2F FF3E FF40",
     "FF70 FF9E-FF9F FFE3 102E0 10780-10785 10787-107B0 107B2-107BA 10A38-10A3A 10A3F 10AE5-10AE6",
     "10D22-10D27 10D4E 10D69-10D6D 10EFA 10EFD-10EFF 10F46-10F50 10F82-10F85 11046 11070",
     "110B9-110BA 11133-11134 11173 111C0 111CA-111CC 11235-11236 112E9-112EA 1133B-1133C 1134D",
     "11366-1136C 11370-11374 113CE-113D0 113D2-113D3 113E1-113E2 11442 11446 114C2-114C3",
     "115BF-115C0 1163F 116B6-116B7 1172B 11839-1183A 1193D-1193E 11943 119E0 11A34 11A47 11A99",
     "11C3F 11D42 11D44-11D45 11D97 11DD9 11F41-11F42 11F5A 13447-13455 1612F 16AF0-16AF4",
     "16B30-16B36 16D6B-16D6C 16F8F-16F9F 16FF0-16FF1 1AFF0-1AFF3 1AFF5-1AFFB 1AFFD-1AFFE",
     "1CF00-1CF2D 1CF30-1CF46 1D167-1D169 1D16D-1D172 1D17B-1D182 1D185-1D18B 1D1AA-1D1AD",
     "1E030-1E06D 1E130-1E136 1E2AE 1E2EC-1E2EF 1E5EE-1E5EF 1E8D0-1E8D6 1E944-1E946 1E948-1E94A"]),
   (["extender", "ext"],
    [
     "B7 2D0-2D1 640 7FA A71 AFB B55 E46 EC6 180A 1843 1AA7 1C36 1C7B 3005 3031-3035 309D-309E",
     "30FC-30FE A015 A60C A9CF A9E6 AA70 AADD AAF3-AAF4 FF70 10781-10782 10D4E 10D6A 10D6F 11237",
     "1135D 113D2-113D3 115C6-115C8 11A98 11DD9 16B42-16B43 16FE0-16FE1 16FE3 16FF2-16FF3",
     "1E13C-1E13D 1E5EF 1E944-1E946"]),
   (["defaultignorablecodepoint", "di"],
    [
     "AD 34F 61C 115F-1160 17B4-17B5 180B-180F 200B-200F 202A-202E 2060-206F 3164 FE00-FE0F FEFF",
     "FFA0 FFF0-FFF8 1BCA0-1BCA3 1D173-1D17A E0000-E0FFF"])]

/-- The yes-or-no property of a plain name. -/
def binary? (name : String) : Option CharSet :=
  if ["alphabetic", "alpha"].contains name then some alphabetic
  else if ["lowercase", "lower"].contains name then
    some (union (ranges Text.lowercaseLetter) (ranges otherLowercase))
  else if ["uppercase", "upper"].contains name then
    some (union (ranges Text.uppercaseLetter) (ranges otherUppercase))
  else if ["whitespace", "wspace", "space"].contains name then some space
  else if ["joincontrol", "joinc"].contains name then some joinControl
  else (binaryTable.find? fun entry => entry.1.contains name).map fun entry =>
    ranges (Text.readRanges entry.2)

/-- The set that a property's bare name denotes.  Names of properties come first, then categories,
then scripts.  Of the yes-or-no properties there are only those of `binary?`; `XID_Start`, `Cased` and
`Extended_Pictographic`, for instance, are names without a set here. -/
def property? (name : List Char) : Option CharSet :=
  let plain := plainName name
  (binary? plain).or ((category? plain).or ((Text.script? plain).map ranges))

/-- The set of the characters that have a given value of a property.  The properties are the category
and the script; ages, script extensions and the classes of segmentation have no sets here. -/
def propertyValue? (name value : List Char) : Option CharSet :=
  let plain := plainName name
  if ["gc", "generalcategory"].contains plain then category? (plainName value)
  else if ["sc", "script"].contains plain then (Text.script? (plainName value)).map ranges
  else none

end CharSet

end Conform
