/-
**Reading patterns.**

The grammar has literals, `.`, the anchors `^` and `$`, sets in brackets, groups, choices by `|`, the
repetitions `?`, `*`, `+` and `{n,m}`, and escapes.  There are no back references and no look-around;
an escape without a meaning is refused.  Switches such as `(?i)` hold to the end of the group they
stand in.  With the switch `x` blanks and comments between the parts are skipped.

Without the switch `u` the shorthands and word boundaries know seven-bit characters only, and
whatever could match a part of a character is refused.

A pattern may be nested 250 deep, and its compiled form may take ten mebibytes, as far as this can be
told from the pattern (`Pattern.footprint`).

Main definitions:

* `PatternFault`, `PatternFault.message` — why a text is no pattern;
* `Pattern.Mode` — the switches;
* `Pattern.readEscape`, `Pattern.readSetItems`, `Pattern.readPieces` — escapes, sets, and patterns;
* `Pattern.read` — the pattern of a text.
-/

import Conform.Pattern.Basic

set_option relaxedAutoImplicit false
set_option autoImplicit false

namespace Conform

/-- Why a text is no pattern. -/
inductive PatternFault where
  | backReference
  | boundaryUnclosed
  | boundaryUnknown
  | countBackward
  | countMissing
  | countTooGreat
  | countUnclosed
  | escapeUnfinished
  | escapeUnknown
  | groupNameBad
  | groupNameEmpty
  | groupNameRepeated
  | groupNameUnfinished
  | groupUnclosed
  | groupUnopened
  | hexBad
  | lookAround
  | nestedTooDeep
  | notUnicode
  | nothingToRepeat
  | propertyUnknown
  | setEscapeBad
  | setRangeBackward
  | setRangeBad
  | setUnclosed
  | switchDangling
  | switchNegatedTwice
  | switchRepeated
  | switchUnfinished
  | switchUnknown
  /-- the compiled form would take more bytes than the limit -/
  | tooLarge
deriving DecidableEq, Repr

namespace Pattern

/-- How deep a pattern may be nested. -/
def nestingLimit : Nat := 250

/-- How many bytes the compiled form may take. -/
def sizeLimit : Nat := 10485760

end Pattern

namespace PatternFault

/-- What is wrong with the text. -/
def reason : PatternFault → String
  | backReference => "backreferences are not supported"
  | boundaryUnclosed => "special word boundary assertion is unclosed or has an invalid character"
  | boundaryUnknown => "unrecognized special word boundary assertion"
  | countBackward => "invalid repetition count range, the start must be <= the end"
  | countMissing => "repetition quantifier expects a valid decimal"
  | countTooGreat => "decimal literal invalid"
  | countUnclosed => "unclosed counted repetition"
  | escapeUnfinished => "incomplete escape sequence, reached end of pattern prematurely"
  | escapeUnknown => "unrecognized escape sequence"
  | groupNameBad => "invalid capture group character"
  | groupNameEmpty => "empty capture group name"
  | groupNameRepeated => "duplicate capture group name"
  | groupNameUnfinished => "unclosed capture group name"
  | groupUnclosed => "unclosed group"
  | groupUnopened => "unopened group"
  | hexBad => "invalid hexadecimal digit or code point"
  | lookAround => "look-around, including look-ahead and look-behind, is not supported"
  | nestedTooDeep => "exceeded the maximum nesting depth"
  | notUnicode => "pattern can match invalid UTF-8 or needs Unicode"
  | nothingToRepeat => "repetition operator missing expression"
  | propertyUnknown => "Unicode property not found"
  | setEscapeBad => "invalid escape sequence found in character class"
  | setRangeBackward => "invalid character class range, the start must be <= the end"
  | setRangeBad => "invalid range boundary, must be a literal"
  | setUnclosed => "unclosed character class"
  | switchDangling => "dangling flag negation operator"
  | switchNegatedTwice => "flag negation operator repeated"
  | switchRepeated => "duplicate flag"
  | switchUnfinished => "expected flag but got end of regex"
  | switchUnknown => "unrecognized flag"
  | tooLarge => "Compiled regex exceeds size limit of 10485760 bytes."

/-- The fault on one line. -/
def message : PatternFault → String
  | tooLarge => reason tooLarge
  | fault => "regex parse error: " ++ reason fault

end PatternFault

namespace Pattern

/-! ### Switches -/

/-- The switches and their positions. -/
structure Mode where
  /-- case variants are alike -/
  caseless : Bool
  /-- `^` and `$` hold at every line -/
  multiline : Bool
  /-- `.` takes line ends too -/
  dotAll : Bool
  /-- a return ends a line too -/
  returns : Bool
  /-- sets hold characters beyond seven bits -/
  unicode : Bool
  /-- blanks and comments are skipped -/
  verbose : Bool
deriving DecidableEq, Repr

/-- The positions at the beginning of a pattern. -/
def Mode.initial : Mode := ⟨false, false, false, false, true, false⟩

/-- A switch. -/
inductive Switch where
  | caseless
  | multiline
  | dotAll
  /-- repetitions prefer fewer rounds; this has no influence on whether there is a match -/
  | reluctant
  | returns
  | unicode
  | verbose
deriving DecidableEq, Repr

/-- The switch of a letter. -/
def Switch.ofChar? : Char → Option Switch
  | 'i' => some caseless
  | 'm' => some multiline
  | 's' => some dotAll
  | 'U' => some reluctant
  | 'R' => some returns
  | 'u' => some unicode
  | 'x' => some verbose
  | _ => none

/-- The mode with one switch turned. -/
def Mode.turn (mode : Mode) (on : Bool) : Switch → Mode
  | .caseless => { mode with caseless := on }
  | .multiline => { mode with multiline := on }
  | .dotAll => { mode with dotAll := on }
  | .reluctant => mode
  | .returns => { mode with returns := on }
  | .unicode => { mode with unicode := on }
  | .verbose => { mode with verbose := on }

/-- The mode that letters in front of `:` or `)` bring about, that mark, and the text behind.  Each
switch is turned once at most; one hyphen turns what follows it off. -/
def readSwitches (mode : Mode) (seen : List Switch) (negated dangling : Bool) :
    List Char → Except PatternFault (Mode × Char × List Char)
  | [] => .error .switchUnfinished
  | c :: rest =>
    if c = ':' ∨ c = ')' then
      if dangling then .error .switchDangling
      else if c = ')' ∧ seen = [] then .error .nothingToRepeat
      else .ok (mode, c, rest)
    else if c = '-' then
      if negated then .error .switchNegatedTwice else readSwitches mode seen true true rest
    else match Switch.ofChar? c with
      | none => .error .switchUnknown
      | some s =>
        if seen.contains s then .error .switchRepeated
        else readSwitches (mode.turn (!negated) s) (s :: seen) negated false rest

/-! ### Blanks and comments -/

/-- The text behind blanks and comments; a comment reaches from `#` to the end of its line. -/
def skipComments (inComment : Bool) : List Char → List Char
  | [] => []
  | c :: rest =>
    if inComment then skipComments (c ≠ '\n') rest
    else if Text.isBlank c then skipComments false rest
    else if c = '#' then skipComments true rest
    else c :: rest

/-- The text behind what the mode lets skip. -/
def Mode.skip (mode : Mode) (rest : List Char) : List Char :=
  if mode.verbose then skipComments false rest else rest

/-- The character that decides whether a hyphen joins a range: the next one, or in verbose mode the
next that is neither blank nor the first `#`. -/
def Mode.peek (mode : Mode) (rest : List Char) : Option Char :=
  if mode.verbose then
    match rest.dropWhile Text.isBlank with
    | '#' :: more => (more.dropWhile Text.isBlank).head?
    | more => more.head?
  else rest.head?

/-! ### Sets by mode -/

/-- The set, or in caseless mode the set with its case variants. -/
def Mode.fold (mode : Mode) (set : CharSet) : CharSet :=
  if mode.caseless then
    if mode.unicode then .folded set else .inter .ascii (.folded set)
  else set

/-- One character, or in caseless mode the character with its case variants. -/
def Mode.literal (mode : Mode) (c : Char) : CharSet :=
  if mode.unicode = false ∧ c.toNat > 0x7F then .single c else mode.fold (.single c)

/-- The set or its complement; a complement goes beyond seven bits. -/
def Mode.negate (mode : Mode) (negated : Bool) (set : CharSet) : Except PatternFault CharSet :=
  if negated && !mode.unicode then .error .notUnicode else .ok (set.negatedIf negated)

/-- The word characters. -/
def Mode.word (mode : Mode) : CharSet := if mode.unicode then .word else .asciiWord

/-- The set of a shorthand: digits, blanks or word characters. -/
def Mode.shorthand (mode : Mode) (c : Char) : CharSet :=
  if c = 'd' then if mode.unicode then .digit else .asciiDigit
  else if c = 's' then if mode.unicode then .space else .asciiSpace
  else mode.word

/-- What `.` takes. -/
def Mode.dot (mode : Mode) : Except PatternFault CharSet :=
  if !mode.unicode then .error .notUnicode
  else if mode.dotAll then .ok (.compl .empty)
  else if mode.returns then .ok (.compl (.union (.single '\r') (.single '\n')))
  else .ok (.compl (.single '\n'))

/-- The condition of `^`. -/
def Mode.lineStart (mode : Mode) : Assertion :=
  if mode.multiline then if mode.returns then .anyLineStart else .lineStart else .textStart

/-- The condition of `$`. -/
def Mode.lineEnd (mode : Mode) : Assertion :=
  if mode.multiline then if mode.returns then .anyLineEnd else .lineEnd else .textEnd

/-! ### Escapes -/

/-- What an escape stands for. -/
inductive Escape where
  | char (c : Char)
  | assertion (a : Assertion)
  | set (s : CharSet)

/-- The character of a code point. -/
def charOf (n : Nat) : Except PatternFault Char :=
  if n < 0xD800 ∨ (0xE000 ≤ n ∧ n < 0x110000) then .ok (Char.ofNat n) else .error .hexBad

/-- Exactly `count` hexadecimal digits, and the text behind. -/
def readHexDigits (mode : Mode) (n : Nat) : Nat → List Char → Except PatternFault (Nat × List Char)
  | 0, rest => .ok (n, rest)
  | _ + 1, [] => .error .escapeUnfinished
  | count + 1, c :: rest =>
    match Text.hexValue? c with
    | none => .error .hexBad
    | some d => readHexDigits mode (16 * n + d) count (mode.skip rest)

/-- What stands in front of the closing brace, without what the mode skips, and the text behind. -/
def readBraced (mode : Mode) : Nat → List Char → Except PatternFault (List Char × List Char)
  | 0, _ => .error .escapeUnfinished
  | fuel + 1, rest =>
    match mode.skip rest with
    | [] => .error .escapeUnfinished
    | c :: rest =>
      if c = '}' then .ok ([], rest)
      else do
        let (more, rest) ← readBraced mode fuel rest
        .ok (c :: more, rest)

/-- The character that hexadecimal digits denote, two, four or eight of them or any number in
braces. -/
def readHex (mode : Mode) (count : Nat) (rest : List Char) :
    Except PatternFault (Char × List Char) :=
  match mode.skip rest with
  | [] => .error .escapeUnfinished
  | '{' :: rest => do
    let (digits, rest) ← readBraced mode (rest.length + 1) rest
    if digits.isEmpty ∨ digits.any fun c => (Text.hexValue? c).isNone then .error .hexBad
    else .ok (← charOf (Text.hexNumber digits), mode.skip rest)
  | rest => do
    let (n, rest) ← readHexDigits mode 0 count rest
    if count = 2 ∧ n > 0x7F ∧ mode.unicode = false then .error .notUnicode
    else .ok (← charOf n, rest)

/-- The name and the value of a property: a colon or an equals sign is between them, and an
exclamation mark in front of the sign negates. -/
def splitProperty (text : List Char) : Option (List Char × Bool × List Char) :=
  match unequal text with
  | some (name, value) => some (name, true, value)
  | none =>
    match text.span (· ≠ ':') with
    | (name, _ :: value) => some (name, false, value)
    | (_, []) =>
      match text.span (· ≠ '=') with
      | (name, _ :: value) => some (name, false, value)
      | (_, []) => none
where
  /-- The parts around the first `!=`. -/
  unequal : List Char → Option (List Char × List Char)
    | [] => none
    | [_] => none
    | a :: b :: rest =>
      if a = '!' ∧ b = '=' then some ([], rest)
      else (unequal (b :: rest)).map fun (name, value) => (a :: name, value)

/-- The name of a property, one letter or some in braces, and the text behind. -/
def readPropertyName (mode : Mode) (rest : List Char) :
    Except PatternFault (List Char × List Char) :=
  match mode.skip rest with
  | [] => .error .escapeUnfinished
  | '{' :: rest => readBraced mode (rest.length + 1) rest
  | '\\' :: _ => .error .propertyUnknown
  | c :: rest => .ok ([c], mode.skip rest)

/-- The set of a property. -/
def propertySet (mode : Mode) (negated : Bool) (name : List Char) : Except PatternFault CharSet :=
  if mode.unicode = false then .error .notUnicode
  else
    let (unequal, set?) := match splitProperty name with
      | some (name, unequal, value) => (unequal, CharSet.propertyValue? name value)
      | none => (false, CharSet.property? name)
    match set? with
    | none => .error .propertyUnknown
    | some set => .ok ((mode.fold set).negatedIf (negated != unequal))

/-- The set of a property that is read, and the text behind. -/
def readProperty (mode : Mode) (negated : Bool) (rest : List Char) :
    Except PatternFault (CharSet × List Char) := do
  let (name, rest) ← readPropertyName mode rest
  .ok (← propertySet mode negated name, rest)

/-- May the letter stand in the name of a word boundary? -/
def isBoundaryLetter (c : Char) : Bool := c = '-' || c.isAlpha

/-- The condition of a boundary's name. -/
def boundary (word : CharSet) (name : String) : Except PatternFault Assertion :=
  if name = "start" then .ok (.wordStart word)
  else if name = "end" then .ok (.wordEnd word)
  else if name = "start-half" then .ok (.wordStartHalf word)
  else if name = "end-half" then .ok (.wordEndHalf word)
  else .error .boundaryUnknown

/-- The letters of a boundary's name, and the text behind. -/
def boundaryLetters (mode : Mode) : Nat → List Char → List Char × List Char
  | 0, rest => ([], rest)
  | fuel + 1, rest =>
    match rest with
    | [] => ([], [])
    | c :: more =>
      if isBoundaryLetter c then
        let (letters, rest) := boundaryLetters mode fuel (mode.skip more)
        (c :: letters, rest)
      else ([], rest)

/-- The boundary whose name has been read, if its brace is closed. -/
def closeBoundary (mode : Mode) (letters : List Char) :
    List Char → Except PatternFault (Assertion × List Char)
  | '}' :: behind => do .ok (← boundary mode.word (String.ofList letters), behind)
  | _ => .error .boundaryUnclosed

/-- A word boundary: plain, or with a name in braces.  Braces that begin otherwise are a repetition
of the plain boundary. -/
def readBoundary (mode : Mode) (rest : List Char) :
    Except PatternFault (Assertion × List Char) :=
  match rest with
  | '{' :: more =>
    match mode.skip more with
    | [] => .error .boundaryUnclosed
    | c :: more =>
      if isBoundaryLetter c then
        let (letters, rest) := boundaryLetters mode (more.length + 1) (c :: more)
        closeBoundary mode letters rest
      else .ok (.wordBoundary mode.word, rest)
  | _ => .ok (.wordBoundary mode.word, rest)

/-- The characters that letters behind a backslash denote. -/
def controlEscape? : Char → Option Char
  | 'a' => some '\x07'
  | 'f' => some '\x0c'
  | 't' => some '\t'
  | 'n' => some '\n'
  | 'r' => some '\r'
  | 'v' => some '\x0b'
  | _ => none

/-- May a backslash stand in front of the character, without changing it?  These are the seven-bit
characters other than letters, digits and the angle brackets. -/
def isQuotable (c : Char) : Bool :=
  c.toNat ≤ 0x7F && !c.isAlphanum && c ≠ '<' && c ≠ '>'

/-- What the text behind a backslash stands for. -/
def readEscape (mode : Mode) : List Char → Except PatternFault (Escape × List Char)
  | [] => .error .escapeUnfinished
  | c :: rest =>
    if c.isDigit then .error .backReference
    else if c = 'x' ∨ c = 'u' ∨ c = 'U' then do
      let (c, rest) ← readHex mode (if c = 'x' then 2 else if c = 'u' then 4 else 8) rest
      .ok (.char c, rest)
    else if c = 'p' ∨ c = 'P' then do
      let (set, rest) ← readProperty mode (c = 'P') rest
      .ok (.set set, rest)
    else if ['d', 's', 'w', 'D', 'S', 'W'].contains c then do
      let set ← mode.negate c.isUpper (mode.shorthand c.toLower)
      .ok (.set set, rest)
    else if isQuotable c then .ok (.char c, rest)
    else if c = 'A' then .ok (.assertion .textStart, rest)
    else if c = 'z' then .ok (.assertion .textEnd, rest)
    else if c = 'B' then .ok (.assertion (.noWordBoundary mode.word), rest)
    else if c = '<' then .ok (.assertion (.wordStart mode.word), rest)
    else if c = '>' then .ok (.assertion (.wordEnd mode.word), rest)
    else if c = 'b' then do
      let (a, rest) ← readBoundary mode rest
      .ok (.assertion a, rest)
    else match controlEscape? c with
      | some c => .ok (.char c, rest)
      | none => .error .escapeUnknown

/-! ### Sets in brackets -/

/-- A set, and how deep it is nested. -/
structure SetPart where
  set : CharSet
  height : Nat

/-- What joins the operands within brackets. -/
inductive SetOperation where
  | inter
  | diff
  | symmDiff

/-- The operation of a sign that stands twice. -/
def SetOperation.ofSign? : Char → Option SetOperation
  | '&' => some inter
  | '-' => some diff
  | '~' => some symmDiff
  | _ => none

/-- The operation applied. -/
def SetOperation.apply : SetOperation → CharSet → CharSet → CharSet
  | inter => CharSet.inter
  | diff => CharSet.diff
  | symmDiff => CharSet.symmDiff

/-- The union of the items of an operand, latest first. -/
def joinItems : List SetPart → SetPart
  | [] => ⟨.empty, 0⟩
  | [part] => part
  | parts => ⟨CharSet.unions (parts.map (·.set)), 1 + parts.foldl (fun h p => max h p.height) 0⟩

/-- The operand joined to the operands before it. -/
def joinOperand (mode : Mode) (left : Option (SetOperation × SetPart)) (right : SetPart) : SetPart :=
  match left with
  | none => right
  | some (op, left) =>
    ⟨op.apply (mode.fold left.set) (mode.fold right.set), 1 + max left.height right.height⟩

/-- One character in a set; without Unicode it has seven bits. -/
def memberChar (mode : Mode) (c : Char) : Except PatternFault Char :=
  if mode.unicode = false ∧ c.toNat > 0x7F then .error .notUnicode else .ok c

/-- A character or an escape in brackets. -/
def readSetAtom (mode : Mode) : List Char → Except PatternFault (Escape × List Char)
  | [] => .error .setUnclosed
  | '\\' :: rest => readEscape mode rest
  | c :: rest => .ok (.char c, rest)

/-- The set of a single item. -/
def atomSet (mode : Mode) : Escape → Except PatternFault CharSet
  | .char c => do .ok (.single (← memberChar mode c))
  | .set s => .ok s
  | .assertion _ => .error .setEscapeBad

/-- The end of a range. -/
def rangeEnd (mode : Mode) : Escape → Except PatternFault Char
  | .char c => memberChar mode c
  | _ => .error .setRangeBad

/-- The range from a character to the next one. -/
def readRange (mode : Mode) (first : Escape) (rest : List Char) :
    Except PatternFault (CharSet × List Char) := do
  let (last, rest) ← readSetAtom mode rest
  let lo ← rangeEnd mode first
  let hi ← rangeEnd mode last
  if lo.toNat ≤ hi.toNat then .ok (.ranges [(lo.toNat, hi.toNat)], rest)
  else .error .setRangeBackward

/-- What follows the first character of an item decides whether it is a range. -/
def readItemEnd (mode : Mode) (first : Escape) :
    List Char → Except PatternFault (CharSet × List Char)
  | [] => .error .setUnclosed
  | '-' :: more =>
    if mode.peek more = some ']' ∨ mode.peek more = some '-' then do
      .ok (← atomSet mode first, '-' :: more)
    else readRange mode first (mode.skip more)
  | rest => do .ok (← atomSet mode first, rest)

/-- An item in brackets: a character, an escape, or a range of characters. -/
def readSetRange (mode : Mode) (rest : List Char) : Except PatternFault (CharSet × List Char) := do
  let (first, rest) ← readSetAtom mode rest
  readItemEnd mode first (mode.skip rest)

/-- Is there a circumflex in front?  And the text without it. -/
def readNegation : List Char → Bool × List Char
  | '^' :: rest => (true, rest)
  | rest => (false, rest)

/-- The seven-bit set of a name that has been read, if its brackets are closed. -/
def closeAscii? (negated : Bool) (name : List Char) : List Char → Option (Bool × CharSet × List Char)
  | ':' :: ']' :: behind =>
    (CharSet.ascii? (String.ofList name)).map fun set => (negated, set, behind)
  | _ => none

/-- A seven-bit set by name, such as `[:alpha:]`, without its first bracket; a circumflex negates. -/
def asciiItem? : List Char → Option (Bool × CharSet × List Char)
  | ':' :: rest =>
    let (negated, rest) := readNegation rest
    let (name, rest) := rest.span (· ≠ ':')
    closeAscii? negated name rest
  | _ => none

/-- Hyphens at the beginning of a set stand for themselves. -/
def leadingHyphens (mode : Mode) (items : List SetPart) :
    Nat → List Char → Except PatternFault (List SetPart × List Char)
  | 0, _ => .error .setUnclosed
  | fuel + 1, rest =>
    match mode.skip rest with
    | [] => .error .setUnclosed
    | '-' :: more => leadingHyphens mode (⟨.single '-', 0⟩ :: items) fuel more
    | rest => .ok (items, rest)

/-- A closing bracket in first place stands for itself, but does not end the pattern. -/
def leadingBracket (mode : Mode) (items : List SetPart) (rest : List Char) :
    Except PatternFault (List SetPart × List Char) :=
  match items, rest with
  | [], ']' :: more =>
    match mode.skip more with
    | [] => .error .setUnclosed
    | more => .ok ([⟨.single ']', 0⟩], more)
  | items, rest => .ok (items, rest)

/-- What follows an opening bracket: is the set negated, its first items, and the text behind. -/
def openSet (mode : Mode) (rest : List Char) :
    Except PatternFault (Bool × List SetPart × List Char) := do
  let (negated, rest) := readNegation (mode.skip rest)
  let (items, rest) ← leadingHyphens mode [] (rest.length + 1) rest
  let (items, rest) ← leadingBracket mode items rest
  .ok (negated, items, rest)

/-- An operator between operands, two of a sign, and the text behind. -/
def operator? : List Char → Option (SetOperation × List Char)
  | c :: d :: rest => if c = d then (SetOperation.ofSign? c).map fun op => (op, rest) else none
  | _ => none

/-- The set up to its closing bracket, and the text behind.  `left` holds the operands before the
last operator, `items` the items behind it. -/
def readSetItems (mode : Mode) : Nat → Bool → Option (SetOperation × SetPart) → List SetPart →
    List Char → Except PatternFault (SetPart × List Char)
  | 0, _, _, _, _ => .error .setUnclosed
  | fuel + 1, negated, left, items, rest =>
    match mode.skip rest with
    | [] => .error .setUnclosed
    | '[' :: more =>
      match asciiItem? more with
      | some (without, set, behind) => do
        let set ← mode.negate without (mode.fold set)
        readSetItems mode fuel negated left (⟨set, 0⟩ :: items) behind
      | none => do
        let (innerNegated, inner, more) ← openSet mode more
        let (part, behind) ← readSetItems mode fuel innerNegated none inner more
        readSetItems mode fuel negated left (part :: items) behind
    | ']' :: behind => do
      let whole := joinOperand mode left (joinItems items)
      let set ← mode.negate negated (mode.fold whole.set)
      .ok (⟨set, whole.height + 1⟩, behind)
    | rest =>
      match operator? rest with
      | some (op, more) =>
        readSetItems mode fuel negated (some (op, joinOperand mode left (joinItems items))) [] more
      | none => do
        let (set, rest) ← readSetRange mode rest
        readSetItems mode fuel negated left (⟨set, 0⟩ :: items) rest

/-! ### Counts -/

/-- The digits of a count, and the text behind. -/
def countDigits (mode : Mode) : Nat → List Char → List Char × List Char
  | 0, rest => ([], rest)
  | fuel + 1, rest =>
    match rest with
    | [] => ([], [])
    | c :: more =>
      if c.isDigit then
        let (digits, rest) := countDigits mode fuel (mode.skip more)
        (c :: digits, rest)
      else ([], rest)

/-- A count of at most 32 bits, between blanks. -/
def readCount (mode : Mode) (rest : List Char) : Except PatternFault (Nat × List Char) :=
  match countDigits mode (rest.length + 1) (rest.dropWhile Text.isBlank) with
  | ([], _) => .error .countMissing
  | (digits, rest) =>
    let n := digits.foldl (fun n c => 10 * n + (c.toNat - 48)) 0
    if n < 4294967296 then .ok (n, rest.dropWhile Text.isBlank) else .error .countTooGreat

/-- The upper bound behind a comma; without a comma it is the lower one. -/
def readMost (mode : Mode) (least : Nat) :
    List Char → Except PatternFault (Option Nat × List Char)
  | ',' :: more =>
    match mode.skip more with
    | [] => .error .countUnclosed
    | '}' :: behind => .ok (none, '}' :: behind)
    | more => do
      let (most, rest) ← readCount mode more
      .ok (some most, rest)
  | rest => .ok (some least, rest)

/-- The text behind a repetition sign, without the mark of a reluctant repetition. -/
def skipReluctance : List Char → List Char
  | '?' :: rest => rest
  | rest => rest

/-- The text behind the closing brace of bounds that are in order. -/
def closeCounts (mode : Mode) (least : Nat) (most : Option Nat) :
    List Char → Except PatternFault (List Char)
  | '}' :: behind =>
    if most.any (· < least) then .error .countBackward
    else .ok (skipReluctance (mode.skip behind))
  | _ => .error .countUnclosed

/-- The bounds of a repetition, without their first brace, and the text behind them. -/
def readCounts (mode : Mode) (rest : List Char) :
    Except PatternFault (Nat × Option Nat × List Char) := do
  let (least, rest) ← readCount mode (mode.skip rest)
  let (most, rest) ← readMost mode least rest
  .ok (least, most, ← closeCounts mode least most rest)

/-! ### Groups and choices -/

/-- A part of a pattern. -/
structure Piece where
  pattern : Pattern
  /-- how deep it is nested -/
  height : Nat
  /-- switches cannot be repeated -/
  repeatable : Bool

/-- The sequence of parts, latest first. -/
def joinPieces : List Piece → Piece
  | [] => ⟨.empty, 0, true⟩
  | [piece] => piece
  | piece :: more =>
    (more.foldl (fun (whole : Piece) p =>
        ⟨.seq p.pattern whole.pattern, max whole.height p.height, true⟩) piece)
      |> fun whole => { whole with height := whole.height + 1 }

/-- The choice among branches, latest first. -/
def joinBranches (last : Piece) : List Piece → Piece
  | [] => last
  | more =>
    (more.foldl (fun (whole : Piece) p =>
        ⟨.alt p.pattern whole.pattern, max whole.height p.height, true⟩) last)
      |> fun whole => { whole with height := whole.height + 1 }

/-- The last part repeated. -/
def repeatLast (least : Nat) (most : Option Nat) : List Piece → Except PatternFault (List Piece)
  | [] => .error .nothingToRepeat
  | piece :: more =>
    if piece.repeatable then
      .ok (⟨.repetition piece.pattern least most, piece.height + 1, true⟩ :: more)
    else .error .nothingToRepeat

/-- May the character stand in the name of a group? -/
def isNameChar (first : Bool) (c : Char) : Bool :=
  c = '_' || Text.isAlphabetic c
    || (!first && (c = '.' || c = '[' || c = ']' || Text.isNumeric c))

/-- The name of a group up to its angle bracket, and the text behind. -/
def readName (first : Bool) : List Char → Except PatternFault (List Char × List Char)
  | [] => .error .groupNameUnfinished
  | c :: rest =>
    if c = '>' then .ok ([], rest)
    else if isNameChar first c then do
      let (name, rest) ← readName false rest
      .ok (c :: name, rest)
    else .error .groupNameBad

/-- What an opening parenthesis begins. -/
inductive Opening where
  /-- a group, its mode, and the name it adds -/
  | group (mode : Mode) (name : Option (List Char))
  /-- switches for what follows -/
  | switches (mode : Mode)

/-- A group with a name, and the text behind. -/
def readNamedGroup (mode : Mode) (rest : List Char) :
    Except PatternFault (Opening × List Char) := do
  let (name, rest) ← readName true rest
  if name.isEmpty then .error .groupNameEmpty else .ok (.group mode (some name), rest)

/-- Switches for a group or for what follows, and the text behind. -/
def readTurned (mode : Mode) (rest : List Char) : Except PatternFault (Opening × List Char) := do
  let (inner, mark, rest) ← readSwitches mode [] false false rest
  .ok (if mark = ':' then .group inner none else .switches inner, rest)

/-- What a question mark behind an opening parenthesis begins, and the text behind. -/
def readExtension (mode : Mode) : List Char → Except PatternFault (Opening × List Char)
  | [] => .error .groupUnclosed
  | c :: rest =>
    if c = '=' ∨ c = '!' then .error .lookAround
    else if c = '<' then
      if rest.head? = some '=' ∨ rest.head? = some '!' then .error .lookAround
      else readNamedGroup mode rest
    else if c = 'P' ∧ rest.head? = some '<' then readNamedGroup mode rest.tail
    else readTurned mode (c :: rest)

/-- What an opening parenthesis begins, and the text behind. -/
def readOpening (mode : Mode) (rest : List Char) : Except PatternFault (Opening × List Char) :=
  match mode.skip rest with
  | '?' :: rest => readExtension mode rest
  | rest => .ok (.group mode none, rest)

/-- The names with the one that a group adds. -/
def addName (names : List (List Char)) : Option (List Char) → Except PatternFault (List (List Char))
  | none => .ok names
  | some name => if names.contains name then .error .groupNameRepeated else .ok (name :: names)

/-- The text behind the closing parenthesis of a group. -/
def closeGroup : List Char → Except PatternFault (List Char)
  | ')' :: rest => .ok rest
  | _ => .error .groupUnclosed

/-- How often the signs of a repetition repeat what stands in front of them. -/
def sign? : Char → Option (Nat × Option Nat)
  | '?' => some (0, some 1)
  | '*' => some (0, none)
  | '+' => some (1, none)
  | _ => none

/-- A character or an escape outside brackets. -/
def readAtom (mode : Mode) (c : Char) (rest : List Char) :
    Except PatternFault (Pattern × List Char) :=
  if c = '\\' then do
    let (escape, rest) ← readEscape mode rest
    .ok (match escape with
      | .char c => .one (mode.literal c)
      | .set s => .one s
      | .assertion a => .assertion a, rest)
  else if c = '.' then do .ok (.one (← mode.dot), rest)
  else if c = '^' then .ok (.assertion mode.lineStart, rest)
  else if c = '$' then .ok (.assertion mode.lineEnd, rest)
  else .ok (.one (mode.literal c), rest)

/-- A reader of pieces by the mode, the names of groups, and the branches and the pieces so far,
latest first.  It yields the piece up to the end of its group, the names, and the text from the
closing parenthesis on. -/
abbrev PieceReader : Type :=
  Mode → List (List Char) → List Piece → List Piece → List Char →
    Except PatternFault (Piece × List (List Char) × List Char)

/-- What follows an opening parenthesis, where `again` reads what stands in the group and behind. -/
def readGroup (again : PieceReader) : PieceReader := fun mode names branches pieces rest => do
  let (opening, rest) ← readOpening mode rest
  match opening with
  | .switches inner => again inner names branches (⟨.empty, 0, false⟩ :: pieces) rest
  | .group inner name =>
    let names ← addName names name
    let (piece, names, rest) ← again inner names [] [] rest
    let rest ← closeGroup rest
    again mode names branches (⟨piece.pattern, piece.height + 1, true⟩ :: pieces) rest

/-- A pattern up to the end of its group. -/
def readPieces : Nat → PieceReader
  | 0, _, _, _, _, _ => .error .nestedTooDeep
  | fuel + 1, mode, names, branches, pieces, rest =>
    match mode.skip rest with
    | [] => .ok (joinBranches (joinPieces pieces) branches, names, [])
    | ')' :: rest => .ok (joinBranches (joinPieces pieces) branches, names, ')' :: rest)
    | '|' :: rest => readPieces fuel mode names (joinPieces pieces :: branches) [] rest
    | '(' :: rest => readGroup (readPieces fuel) mode names branches pieces rest
    | '[' :: rest => do
      let (negated, items, rest) ← openSet mode rest
      let (part, rest) ← readSetItems mode (rest.length + 1) negated none items rest
      readPieces fuel mode names branches (⟨.one part.set, part.height, true⟩ :: pieces) rest
    | '{' :: rest => do
      let (least, most, rest) ← readCounts mode rest
      let pieces ← repeatLast least most pieces
      readPieces fuel mode names branches pieces rest
    | c :: rest =>
      match sign? c with
      | some (least, most) => do
        let pieces ← repeatLast least most pieces
        readPieces fuel mode names branches pieces (skipReluctance rest)
      | none => do
        let (pattern, rest) ← readAtom mode c rest
        readPieces fuel mode names branches (⟨pattern, 0, true⟩ :: pieces) rest

/-! ### Size -/

/-- About how many ranges a set takes. -/
def setSpan : CharSet → Nat
  | .ranges rs => rs.length
  | .union a b | .inter a b => max (setSpan a) (setSpan b)
  | .compl a | .folded a => setSpan a

/-- About how many bytes the compiled form takes: repetitions are written out.  This is an estimate.  The
form itself, which shares what sets have in common, may be smaller or greater, so of the patterns near
the limit some are taken that a compiler would refuse, and the other way round. -/
def footprint : Pattern → Nat
  | .empty => 0
  | .one set => 32 + 64 * (setSpan set - 1)
  | .assertion _ => 32
  | .seq a b => footprint a + footprint b
  | .alt a b => footprint a + footprint b + 64
  | .repetition a least most =>
    match most with
    | none => (footprint a + 32) * max least 1
    | some most => footprint a * least + (footprint a + 32) * (most - least)

/-- The pattern of a text. -/
def read (text : String) : Except PatternFault Pattern := do
  let cs := text.toList
  let (piece, _, rest) ← readPieces (cs.length + 1) Mode.initial [] [] [] cs
  if rest ≠ [] then .error .groupUnopened
  else if piece.height > nestingLimit then .error .nestedTooDeep
  else if footprint piece.pattern > sizeLimit then .error .tooLarge
  else .ok piece.pattern

end Pattern

end Conform
