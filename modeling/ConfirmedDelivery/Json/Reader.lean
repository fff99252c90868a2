import ConfirmedDelivery.Json.Fault
import ConfirmedDelivery.Json.Value

/-!
# Reading JSON texts

A reader takes characters off the front of a text and hands back the rest, or stops with a reason, at
a number of bytes past the text that was left. Values are read to a depth of `depthLimit` nested
containers. What is skipped because nobody asked for it only has to follow the grammar: its depth is
not limited, its numbers may be out of range and its escapes may name half of a surrogate pair.
-/

namespace ConfirmedDelivery.Json

/-- Where and why a reader stopped: `past` bytes into what was left. -/
structure Stop where
  reason : Reason
  rest : List Char
  past : Nat

/-- A function that takes a value off the front of a text. -/
abbrev Reader (α : Type) := List Char → Except Stop (α × List Char)

/-- Stops before the rest. -/
def stopAt {α : Type} (rest : List Char) (reason : Reason) : Except Stop α :=
  .error ⟨reason, rest, 0⟩

/-- Stops one byte into the rest. -/
def stopIn {α : Type} (rest : List Char) (reason : Reason) : Except Stop α :=
  .error ⟨reason, rest, 1⟩

/-- How many containers may be nested. -/
def depthLimit : Nat := 127

def isSpace (c : Char) : Bool := c == ' ' || c == '\n' || c == '\t' || c == '\r'

/-- What follows the blanks at the front. -/
def skipSpace (s : List Char) : List Char := s.dropWhile isSpace

/-- Takes the letters of a word, the first of which has been read. -/
def word : List Char → List Char → Except Stop (List Char)
  | [], s => .ok s
  | _ :: _, [] => stopAt [] .endInValue
  | e :: es, c :: rest => if c = e then word es rest else stopIn (c :: rest) .expectedWord

/-! ## Numbers -/

/-- A number as it is written: an integer of 64 bits, or a real number. -/
inductive Number where
  | integer (value : Int)
  | real (value : Binary64)

/-- Gives a finite decimal its value, correctly rounded (see `Decimal.toBinary64`). -/
def finish (d : Decimal) (s : List Char) : Except Stop (Number × List Char) :=
  let x := d.toBinary64
  if x.isInfinite then stopAt s .numberOutOfRange else .ok (.real x, s)

/-- The digits of a power of ten. One that does not fit 32 bits ends the number at the digit that
shows it, or makes it zero. -/
def powerDigits (negative : Bool) (d : Decimal) (power : Nat) (s : List Char) :
    Except Stop (Number × List Char) :=
  match s with
  | [] => finish { d with exponent := d.exponent + (if negative then -(power : Int) else power) } []
  | c :: rest =>
    match digit? c with
    | none =>
      finish { d with exponent := d.exponent + (if negative then -(power : Int) else power) }
        (c :: rest)
    | some k =>
      if twoPow 31 ≤ 10 * power + k then
        if d.digits ≠ 0 ∧ !negative then stopAt rest .numberOutOfRange
        else finish { d with digits := 0 } (takeDigits 0 0 rest).2.2
      else powerDigits negative d (10 * power + k) rest

/-- A power of ten, after its letter. -/
def power (d : Decimal) (s : List Char) : Except Stop (Number × List Char) :=
  let (negative, s) := match s with
    | '+' :: r => (false, r)
    | '-' :: r => (true, r)
    | r => (false, r)
  match s with
  | [] => stopAt [] .endInValue
  | c :: rest =>
    match digit? c with
    | none => stopIn (c :: rest) .invalidNumber
    | some k => powerDigits negative d k rest

/-- What may follow the digits of a real number. -/
def afterDigits (d : Decimal) (s : List Char) : Except Stop (Number × List Char) :=
  match s with
  | c :: rest => if c = 'e' ∨ c = 'E' then power d rest else finish d (c :: rest)
  | [] => finish d []

/-- Decimal places, after the point. -/
def places (d : Decimal) (s : List Char) : Except Stop (Number × List Char) :=
  match takeDigits d.digits 0 s with
  | (_, 0, []) => stopAt [] .endInValue
  | (_, 0, c :: rest) => stopIn (c :: rest) .invalidNumber
  | (digits, count, rest) => afterDigits { d with digits := digits, exponent := -(count : Int) } rest

/-- An integer without point and exponent; it is a real number when it does not fit, and so is a
zero with a sign. -/
def whole (negative : Bool) (n : Nat) : Json.Number :=
  if negative then
    if n = 0 ∨ twoPow 63 < n then .real (Binary64.ofRatio true n 1) else .integer (-(n : Int))
  else if n < twoPow 64 then .integer n
  else .real (Binary64.ofNat n)

/-- What follows the digits before the point. -/
def afterWhole (negative : Bool) (n : Nat) (s : List Char) : Except Stop (Number × List Char) :=
  match s with
  | '.' :: rest => places ⟨negative, n, 0⟩ rest
  | c :: rest =>
    if c = 'e' ∨ c = 'E' then power ⟨negative, n, 0⟩ rest
    else
      match whole negative n with
      | .real x => if x.isInfinite then stopAt (c :: rest) .numberOutOfRange
        else .ok (.real x, c :: rest)
      | k => .ok (k, c :: rest)
  | [] =>
    match whole negative n with
    | .real x => if x.isInfinite then stopAt [] .numberOutOfRange else .ok (.real x, [])
    | k => .ok (k, [])

/-- A number without its sign: no zero before another digit. -/
def magnitude (negative : Bool) : List Char → Except Stop (Number × List Char)
  | [] => stopAt [] .endInValue
  | '0' :: rest =>
    match rest.head?.bind digit? with
    | some _ => stopIn rest .invalidNumber
    | none => afterWhole negative 0 rest
  | c :: rest =>
    match digit? c with
    | none => stopIn (c :: rest) .invalidNumber
    | some _ =>
      let (n, _, rest) := takeDigits 0 0 (c :: rest)
      afterWhole negative n rest

/-- A number that begins with a digit or a minus. -/
def number : List Char → Except Stop (Number × List Char)
  | '-' :: rest => magnitude true rest
  | s => magnitude false s

/-- Whether a number begins here. -/
def startsNumber (c : Char) : Bool := c == '-' || (digit? c).isSome

/-! ## Strings -/

/-- The number of bytes of a text. -/
def byteLength (s : List Char) : Nat := s.foldl (fun n c => n + c.utf8Size) 0

/-- Four hexadecimal digits. -/
def hexUnit (s : List Char) : Except Stop (Nat × List Char) :=
  if byteLength s < 4 then stopAt [] .endInText
  else
    match (s.take 4).mapM hexDigit? with
    | some ds => .ok (ds.foldl (fun n d => 16 * n + d) 0, s.drop 4)
    | none => .error ⟨.invalidEscape, s, 4⟩

def isHighSurrogate (n : Nat) : Bool := decide (0xD800 ≤ n ∧ n ≤ 0xDBFF)

def isLowSurrogate (n : Nat) : Bool := decide (0xDC00 ≤ n ∧ n ≤ 0xDFFF)

/-- The second half of a surrogate pair whose first half is `high`. -/
def surrogate (high : Nat) : List Char → Except Stop (Char × List Char)
  | [] => stopAt [] .endInText
  | '\\' :: [] => stopAt [] .endInText
  | '\\' :: 'u' :: rest => do
    let (low, rest) ← hexUnit rest
    if isLowSurrogate low then
      .ok (Char.ofNat (0x10000 + (high - 0xD800) * 0x400 + (low - 0xDC00)), rest)
    else stopAt rest .loneSurrogate
  | '\\' :: rest => stopIn rest .unfinishedSurrogate
  | rest => stopIn rest .unfinishedSurrogate

/-- The character that an escape stands for, after the backslash. -/
def unescape : List Char → Except Stop (Char × List Char)
  | [] => stopAt [] .endInText
  | 'u' :: rest => do
    let (n, rest) ← hexUnit rest
    if isLowSurrogate n then stopAt rest .loneSurrogate
    else if isHighSurrogate n then surrogate n rest
    else .ok (Char.ofNat n, rest)
  | c :: rest =>
    match c with
    | '\"' => .ok ('\"', rest)
    | '\\' => .ok ('\\', rest)
    | '/' => .ok ('/', rest)
    | 'b' => .ok ('\x08', rest)
    | 'f' => .ok ('\x0c', rest)
    | 'n' => .ok ('\n', rest)
    | 'r' => .ok ('\r', rest)
    | 't' => .ok ('\t', rest)
    | _ => stopIn (c :: rest) .invalidEscape

/-- The characters up to the closing quote, of which there are at most `fuel`. -/
def textBody : Nat → List Char → Except Stop (List Char × List Char)
  | 0, _ => stopAt [] .endInText
  | _ + 1, [] => stopAt [] .endInText
  | fuel + 1, c :: rest =>
    if c = '\"' then .ok ([], rest)
    else if c = '\\' then do
      let (x, rest) ← unescape rest
      let (xs, rest) ← textBody fuel rest
      .ok (x :: xs, rest)
    else if c < ' ' then stopIn (c :: rest) .controlCharacter
    else do
      let (xs, rest) ← textBody fuel rest
      .ok (c :: xs, rest)

/-- A string, after the opening quote. -/
def textRest : Reader String := fun s => do
  let (cs, rest) ← textBody (s.length + 1) s
  .ok (String.ofList cs, rest)

/-! ## Containers -/

/-- The items of a list after its bracket, of which there are fewer than `fuel`. -/
def items {α : Type} (item : Reader α) : Nat → Bool → Reader (List α)
  | 0, _, _ => stopAt [] .endInList
  | fuel + 1, first, s =>
    match skipSpace s with
    | [] => stopAt [] .endInList
    | ']' :: rest => .ok ([], rest)
    | c :: rest =>
      let one := fun s => do
        let (a, s) ← item s
        let (as, s) ← items item fuel false s
        .ok (a :: as, s)
      if first then one (c :: rest)
      else if c = ',' then
        match skipSpace rest with
        | [] => stopAt [] .endInValue
        | ']' :: r => stopIn (']' :: r) .trailingComma
        | r => one r
      else stopIn (c :: rest) .expectedCommaOrBracket

/-- The colon after a key. -/
def colon (s : List Char) : Except Stop (List Char) :=
  match skipSpace s with
  | [] => stopAt [] .endInObject
  | ':' :: rest => .ok rest
  | rest => stopIn rest .expectedColon

/-- The members of an object after its brace, of which there are fewer than `fuel`. Each one is
taken in by `member`, which reads on after the key. -/
def members {σ : Type} (member : σ → String → Reader σ) : Nat → Bool → σ → Reader σ
  | 0, _, _, _ => stopAt [] .endInObject
  | fuel + 1, first, state, s =>
    match skipSpace s with
    | [] => stopAt [] .endInObject
    | '}' :: rest => .ok (state, rest)
    | c :: rest =>
      let one := fun s => do
        let (key, s) ← textRest s
        let (state, s) ← member state key s
        members member fuel false state s
      if first then
        if c = '\"' then one rest else stopIn (c :: rest) .keyNotText
      else if c = ',' then
        match skipSpace rest with
        | [] => stopAt [] .endInValue
        | '\"' :: r => one r
        | '}' :: r => stopIn ('}' :: r) .trailingComma
        | r => stopIn r .keyNotText
      else stopIn (c :: rest) .expectedCommaOrBrace

/-- Reads any value with at most `depth` nested containers. -/
def value : Nat → Reader Json
  | depth, s =>
    match skipSpace s with
    | [] => stopAt [] .endInValue
    | 'n' :: rest => do .ok (.null, ← word "ull".toList rest)
    | 't' :: rest => do .ok (.boolean true, ← word "rue".toList rest)
    | 'f' :: rest => do .ok (.boolean false, ← word "alse".toList rest)
    | '\"' :: rest => do
      let (t, rest) ← textRest rest
      .ok (.text t, rest)
    | '[' :: rest =>
      match depth with
      | 0 => stopIn ('[' :: rest) .tooDeep
      | d + 1 => do
        let (js, rest) ← items (value d) (rest.length + 1) true rest
        .ok (.sequence js, rest)
    | '{' :: rest =>
      match depth with
      | 0 => stopIn ('{' :: rest) .tooDeep
      | d + 1 => do
        let member := fun fields key s => do
          let (j, s) ← value d (← colon s)
          .ok (Dict.place key j fields, s)
        let (fields, rest) ← members member (rest.length + 1) true [] rest
        .ok (.mapping fields, rest)
    | c :: rest =>
      if startsNumber c then do
        let (n, rest) ← number (c :: rest)
        match n with
        | .integer i => .ok (.integer i, rest)
        | .real x => .ok (.real x, rest)
      else stopIn (c :: rest) .expectedValue

/-! ## Skipping -/

/-- An open container. -/
inductive Bracket where
  | list
  | object

/-- Skips the rest of a string. -/
def skipText : Nat → List Char → Except Stop (List Char)
  | 0, _ => stopAt [] .endInText
  | _ + 1, [] => stopAt [] .endInText
  | fuel + 1, c :: rest =>
    if c = '\"' then .ok rest
    else if c = '\\' then
      match rest with
      | [] => stopAt [] .endInText
      | 'u' :: r => do
        let (_, r) ← hexUnit r
        skipText fuel r
      | e :: r =>
        if e ∈ ['\"', '\\', '/', 'b', 'f', 'n', 'r', 't'] then skipText fuel r
        else stopIn (e :: r) .invalidEscape
    else if c < ' ' then stopAt (c :: rest) .controlCharacter
    else skipText fuel rest

/-- Skips a power of ten, after its letter. -/
def skipPower (s : List Char) : Except Stop (List Char) :=
  let s := match s with
    | '+' :: r => r
    | '-' :: r => r
    | r => r
  match s with
  | [] => stopAt [] .invalidNumber
  | c :: rest =>
    match digit? c with
    | none => stopIn (c :: rest) .invalidNumber
    | some _ => .ok (takeDigits 0 0 rest).2.2

/-- Skips what may follow digits. -/
def skipFraction (s : List Char) : Except Stop (List Char) :=
  match s with
  | '.' :: rest =>
    match takeDigits 0 0 rest with
    | (_, 0, r) => stopIn r .invalidNumber
    | (_, _, c :: r) => if c = 'e' ∨ c = 'E' then skipPower r else .ok (c :: r)
    | (_, _, []) => .ok []
  | c :: rest => if c = 'e' ∨ c = 'E' then skipPower rest else .ok (c :: rest)
  | [] => .ok []

/-- Skips a number without its sign. -/
def skipMagnitude : List Char → Except Stop (List Char)
  | [] => stopAt [] .invalidNumber
  | '0' :: rest =>
    match rest.head?.bind digit? with
    | some _ => stopIn rest .invalidNumber
    | none => skipFraction rest
  | c :: rest =>
    match digit? c with
    | none => stopIn (c :: rest) .invalidNumber
    | some _ => skipFraction (takeDigits 0 0 (c :: rest)).2.2

/-- Skips a key and its colon. -/
def skipKey (s : List Char) : Except Stop (List Char) :=
  match skipSpace s with
  | [] => stopAt [] .endInObject
  | '\"' :: rest => do
    let rest ← skipText (rest.length + 1) rest
    match skipSpace rest with
    | [] => stopAt [] .endInObject
    | ':' :: rest => .ok rest
    | rest => stopIn rest .expectedColon
  | rest => stopIn rest .keyNotText

/-- Where skipping stands: before a value, just inside a container, or after a value. -/
inductive Skipping where
  | value
  | opened (bracket : Bracket)
  | done

/-- Skips on, inside the containers `outer`, the innermost first. -/
def skipFrom : Nat → Skipping → List Bracket → List Char → Except Stop (List Char)
  | 0, _, _, _ => stopAt [] .endInValue
  | fuel + 1, .value, outer, s =>
    match skipSpace s with
    | [] => stopAt [] .endInValue
    | 'n' :: rest => do skipFrom fuel .done outer (← word "ull".toList rest)
    | 't' :: rest => do skipFrom fuel .done outer (← word "rue".toList rest)
    | 'f' :: rest => do skipFrom fuel .done outer (← word "alse".toList rest)
    | '-' :: rest => do skipFrom fuel .done outer (← skipMagnitude rest)
    | '\"' :: rest => do skipFrom fuel .done outer (← skipText (rest.length + 1) rest)
    | '[' :: rest => skipFrom fuel (.opened .list) outer rest
    | '{' :: rest => skipFrom fuel (.opened .object) outer rest
    | c :: rest =>
      if (digit? c).isSome then do skipFrom fuel .done outer (← skipMagnitude (c :: rest))
      else stopIn (c :: rest) .expectedValue
  | fuel + 1, .opened .list, outer, s =>
    match skipSpace s with
    | [] => stopAt [] .endInList
    | ']' :: rest => skipFrom fuel .done outer rest
    | rest => skipFrom fuel .value (.list :: outer) rest
  | fuel + 1, .opened .object, outer, s =>
    match skipSpace s with
    | [] => stopAt [] .endInObject
    | '}' :: rest => skipFrom fuel .done outer rest
    | rest => do skipFrom fuel .value (.object :: outer) (← skipKey rest)
  | _ + 1, .done, [], s => .ok s
  | fuel + 1, .done, .list :: outer, s =>
    match skipSpace s with
    | [] => stopAt [] .endInList
    | ',' :: rest => skipFrom fuel .value (.list :: outer) rest
    | ']' :: rest => skipFrom fuel .done outer rest
    | rest => stopIn rest .expectedCommaOrBracket
  | fuel + 1, .done, .object :: outer, s =>
    match skipSpace s with
    | [] => stopAt [] .endInObject
    | ',' :: rest => do skipFrom fuel .value (.object :: outer) (← skipKey rest)
    | '}' :: rest => skipFrom fuel .done outer rest
    | rest => stopIn rest .expectedCommaOrBrace

/-- Skips one value. Every three steps take a character at least. -/
def skip (s : List Char) : Except Stop (List Char) := skipFrom (3 * s.length + 3) .value [] s

/-! ## Whole texts -/

/-- The place that a stop in a text names. -/
def Stop.place (s : Stop) (whole : List Char) : Place :=
  let read := whole.take (whole.length - s.rest.length)
  (read.foldl Place.after Place.start).advance s.past s.rest

/-- Reads a text that holds one value and nothing after it. -/
def readAll {α : Type} (reader : Reader α) (s : String) : Except Fault α :=
  let whole := s.toList
  let result := do
    let (a, rest) ← reader whole
    match skipSpace rest with
    | [] => .ok a
    | rest => stopIn rest .trailingCharacters
  match result with
  | .ok a => .ok a
  | .error stop => .error ⟨stop.reason, some (stop.place whole)⟩

/-- Reads a text that holds one JSON value. -/
def read (s : String) : Except Fault Json := readAll (value depthLimit) s

end ConfirmedDelivery.Json
