import ConfirmedDelivery.Json.Reader

/-!
# Records in JSON

A record type is described by its list of fields, each with its name, the reader of its value and the
writer of it. The same list reads an object in any order of names, reads an array in the order of
the list, and writes the object: whoever writes a field in a way that its reader takes back can read
the whole record back. Fields that a text leaves out keep the value of a given record, names that are
not in the list are skipped, and a name may not come twice.
-/

namespace ConfirmedDelivery.Json

/-! ## Readers of single values -/

/-- Tells what stands here in place of something else. -/
def mismatch {α : Type} (expected : String) (s : List Char) : Except Stop α :=
  let wrong := fun found rest => stopAt rest (.wrongType found expected)
  match s with
  | [] => stopAt [] .endInValue
  | 'n' :: rest => do wrong .null (← word "ull".toList rest)
  | 't' :: rest => do wrong (.boolean true) (← word "rue".toList rest)
  | 'f' :: rest => do wrong (.boolean false) (← word "alse".toList rest)
  | '\"' :: rest => do
    let (t, rest) ← textRest rest
    wrong (.text t) rest
  | '[' :: rest => wrong .sequence ('[' :: rest)
  | '{' :: rest => wrong .mapping ('{' :: rest)
  | c :: rest =>
    if startsNumber c then do
      let (n, rest) ← number (c :: rest)
      match n with
      | .integer i => wrong (.integer i) rest
      | .real x => wrong (.real x) rest
    else stopIn (c :: rest) .expectedValue

/-- A number of any kind, handed to `accept` with the text after it. -/
def readNumber {α : Type} (expected : String) (accept : Number → Reader α) : Reader α := fun s =>
  match skipSpace s with
  | [] => stopAt [] .endInValue
  | c :: rest =>
    if startsNumber c then do
      let (n, rest) ← number (c :: rest)
      accept n rest
    else mismatch expected (c :: rest)

/-- A natural number of at most `bound`. -/
def readNat (bound : Nat) (expected : String) : Reader Nat :=
  readNumber expected fun n rest =>
    match n with
    | .integer i =>
      if 0 ≤ i ∧ i ≤ bound then .ok (i.toNat, rest) else stopAt rest (.wrongValue i expected)
    | .real x => stopAt rest (.wrongType (.real x) expected)

/-- A real number; an integer stands for the nearest one. -/
def readReal : Reader Binary64 :=
  readNumber "f64" fun n rest =>
    match n with
    | .integer i => .ok (Binary64.ofInt i, rest)
    | .real x => .ok (x, rest)

/-- True or false. -/
def readBool : Reader Bool := fun s =>
  match skipSpace s with
  | 't' :: rest => do .ok (true, ← word "rue".toList rest)
  | 'f' :: rest => do .ok (false, ← word "alse".toList rest)
  | rest => mismatch "a boolean" rest

/-- A string. -/
def readText : Reader String := fun s =>
  match skipSpace s with
  | '\"' :: rest => textRest rest
  | rest => mismatch "a string" rest

/-- A value or null. -/
def readOption {α : Type} (r : Reader α) : Reader (Option α) := fun s =>
  match skipSpace s with
  | 'n' :: rest => do .ok (none, ← word "ull".toList rest)
  | rest => do
    let (a, rest) ← r rest
    .ok (some a, rest)

/-- Null and nothing else. -/
def readUnit : Reader Unit := fun s =>
  match skipSpace s with
  | 'n' :: rest => do .ok ((), ← word "ull".toList rest)
  | rest => mismatch "unit" rest

/-- The name of one of the given variants, after the opening quote. -/
def readVariantName {α : Type} (variants : List (String × α)) : Reader α := fun s => do
  let (name, rest) ← textRest s
  match variants.lookup name with
  | some a => .ok (a, rest)
  | none => stopAt rest (.unknownVariant name (variants.map Prod.fst))

/-- The one member of an object, after the brace: the name of a variant and null. -/
def readVariantMember {α : Type} (variants : List (String × α)) : Reader α := fun s =>
  match skipSpace s with
  | [] => stopAt [] .endInObject
  | '\"' :: rest => do
    let (a, rest) ← readVariantName variants rest
    let (_, rest) ← readUnit (← colon rest)
    match skipSpace rest with
    | [] => stopAt [] .endInObject
    | '}' :: rest => .ok (a, rest)
    | rest => stopAt rest .expectedValue
  | '}' :: rest => stopIn ('}' :: rest) .expectedValue
  | rest => stopIn rest .keyNotText

/-- One of the given variants: its name, or an object that gives null under its name. -/
def readVariant {α : Type} (variants : List (String × α)) (depth : Nat) : Reader α := fun s =>
  match skipSpace s with
  | [] => stopAt [] .endInValue
  | '\"' :: rest => readVariantName variants rest
  | '{' :: rest =>
    if depth = 0 then stopIn ('{' :: rest) .tooDeep else readVariantMember variants rest
  | rest => stopIn rest .expectedValue

/-! ## Records -/

/-- A field of a record `σ`: its name, how its value is read into a record, inside at most so many
containers, and how it is written. -/
structure Field (σ : Type) where
  name : String
  read : Nat → Reader (σ → σ)
  write : σ → List Char

/-- A field whose value is taken out by `get` and put in by `set`. -/
def Field.of {σ α : Type} (name : String) (read : Nat → Reader α) (write : α → List Char)
    (get : σ → α) (set : α → σ → σ) : Field σ where
  name
  read depth s := do
    let (a, rest) ← read depth s
    .ok (set a, rest)
  write r := write (get r)

namespace Record

variable {σ : Type}

/-- Takes in one member of an object: the record so far and the names seen. -/
def member (fields : List (Field σ)) (depth : Nat) (state : σ × List String) (key : String) :
    Reader (σ × List String) := fun s =>
  match fields.find? (fun f => f.name == key) with
  | none => do .ok (state, ← skip (← colon s))
  | some f =>
    if key ∈ state.2 then
      match skipSpace s with
      | '}' :: rest => stopAt rest (.duplicateField key)
      | rest => stopAt rest (.duplicateField key)
    else do
      let (set, rest) ← f.read depth (← colon s)
      .ok ((set state.1, key :: state.2), rest)

/-- Takes in the items of an array, in the order of the fields. An array may end early, but may not
go on after the last field. -/
def elements (depth : Nat) : List (Field σ) → Bool → σ → Reader σ
  | [], _, state, s =>
    match skipSpace s with
    | [] => stopAt [] .endInList
    | ']' :: rest => .ok (state, rest)
    | ',' :: rest =>
      match skipSpace rest with
      | ']' :: r => stopIn (']' :: r) .trailingComma
      | r => stopIn r .trailingCharacters
    | rest => stopIn rest .trailingCharacters
  | f :: fields, first, state, s =>
    match skipSpace s with
    | [] => stopAt [] .endInList
    | ']' :: rest => .ok (state, rest)
    | c :: rest =>
      let one := fun s => do
        let (set, s) ← f.read depth s
        elements depth fields false (set state) s
      if first then one (c :: rest)
      else if c = ',' then
        match skipSpace rest with
        | [] => stopAt [] .endInValue
        | ']' :: r => stopIn (']' :: r) .trailingComma
        | r => one r
      else stopIn (c :: rest) .expectedCommaOrBracket

/-- Reads a record from an object or an array; what is left out is taken from `blank`. -/
def read (expected : String) (fields : List (Field σ)) (blank : σ) (depth : Nat) : Reader σ :=
  fun s =>
    match skipSpace s with
    | '[' :: rest =>
      if depth = 0 then stopIn ('[' :: rest) .tooDeep
      else elements (depth - 1) fields true blank rest
    | '{' :: rest =>
      if depth = 0 then stopIn ('{' :: rest) .tooDeep
      else do
        let ((r, _), rest) ←
          members (member fields (depth - 1)) (rest.length + 1) true (blank, []) rest
        .ok (r, rest)
    | rest => mismatch expected rest

/-- The members of an object, in the order of the fields. -/
def memberChars (r : σ) : List (Field σ) → List Char
  | [] => []
  | [f] => textChars f.name ++ ':' :: f.write r
  | f :: rest => textChars f.name ++ ':' :: f.write r ++ ',' :: memberChars r rest

/-- Writes a record as an object. -/
def chars (fields : List (Field σ)) (r : σ) : List Char := '{' :: memberChars r fields ++ ['}']

end Record

/-! ## Writers of single values -/

def natChars (n : Nat) : List Char := (toString n).toList

def realChars (x : Binary64) : List Char := (NumberStyle.json.write x).toList

def boolChars (b : Bool) : List Char := (if b then "true" else "false").toList

def optionChars {α : Type} (write : α → List Char) : Option α → List Char
  | none => "null".toList
  | some a => write a

end ConfirmedDelivery.Json
