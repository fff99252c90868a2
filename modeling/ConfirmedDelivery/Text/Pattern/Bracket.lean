import ConfirmedDelivery.Text.Pattern.Atom

/-!
# Sets of characters in a pattern

A set stands in brackets: characters, ranges, names and other sets, which are joined, and operators
between them. Whether a set can be matched with depends only on whether it names anything, and on
whether it holds the bytes beyond ASCII; of these it holds all or none.
-/

namespace ConfirmedDelivery.Text.Pattern

/-- What is known of a set of characters. -/
structure CharSet where
  /-- How deep it is nested. -/
  depth : Nat
  /-- Whether a character is named in it. -/
  filled : Bool
  /-- Whether it holds the bytes beyond ASCII. -/
  beyond : Bool
deriving DecidableEq

/-- The greatest of some depths. -/
def deepest (depths : List Nat) : Nat := depths.foldr max 0

/-- The union of some sets. -/
def CharSet.union : List CharSet → CharSet
  | [] => ⟨0, false, false⟩
  | [s] => s
  | ss => ⟨deepest (ss.map CharSet.depth) + 1, ss.any CharSet.filled, ss.any CharSet.beyond⟩

/-- What stands between two sets. -/
inductive SetOperator where
  | intersection
  | difference
  | symmetricDifference
deriving DecidableEq

/-- The set that an operator makes of two. -/
def SetOperator.apply (op : SetOperator) (s t : CharSet) : CharSet :=
  ⟨max s.depth t.depth + 1, s.filled || t.filled,
    match op with
    | .intersection => s.beyond && t.beyond
    | .difference => s.beyond && !t.beyond
    | .symmetricDifference => s.beyond != t.beyond⟩

/-- A set whose closing bracket has not come yet. -/
structure Bracket where
  /-- Whether all characters but those of the set are meant. -/
  complement : Bool
  /-- Whether there was nothing but hyphens yet. -/
  fresh : Bool
  /-- What stands before the last operator. -/
  left : Option (CharSet × SetOperator)
  /-- What is joined since, the last first. -/
  joined : List CharSet

namespace Bracket

/-- Joins a set. -/
def add (b : Bracket) (s : CharSet) : Bracket := { b with joined := s :: b.joined }

/-- The set up to here. -/
def whole (b : Bracket) : CharSet :=
  match b.left with
  | none => .union b.joined
  | some (s, op) => op.apply s (.union b.joined)

/-- Puts an operator after the set up to here. -/
def operate (b : Bracket) (op : SetOperator) : Bracket :=
  { b with left := some (b.whole, op), joined := [] }

/-- The set, once its closing bracket has come. -/
def close (m : Mode) (b : Bracket) : Option CharSet :=
  let s := b.whole
  let beyond := s.beyond != b.complement
  let refused := if m.unicode then m.caseless && s.filled else beyond
  if refused then none else some ⟨s.depth + 1, s.filled, beyond⟩

end Bracket

/-- A set that names something, of ASCII only. -/
def CharSet.named : CharSet := ⟨0, true, false⟩

/-- The set of one atom. -/
def Mode.single? (m : Mode) : Atom → Option CharSet
  | .char c _ => if m.unicode || decide (c.toNat < 0x80) then some .named else none
  | .lettered complement => if m.allows (.lettered complement) then some .named else none
  | _ => none

/-- Reads a character or an escape in a set. -/
def readMember (m : Mode) : List Char → Option (Atom × List Char)
  | [] => none
  | '\\' :: rest => escape m rest
  | c :: rest => some (.char c false, rest)

/-- Reads a member of a set, or a range of characters. A hyphen before the closing bracket or before
another one makes no range. -/
def readRange (m : Mode) (s : List Char) : Option (CharSet × List Char) := do
  let (low, rest) ← readMember m s
  match m.pass rest with
  | [] => none
  | '-' :: more =>
    if m.ahead? more = some ']' ∨ m.ahead? more = some '-' then
      pure (← m.single? low, '-' :: more)
    else
      let (high, rest) ← readMember m (m.pass more)
      match low, high with
      | .char a _, .char b _ =>
        let _ ← m.single? low
        let set ← m.single? high
        if a ≤ b then pure (set, rest) else none
      | _, _ => none
  | rest => pure (← m.single? low, rest)

/-- The sets of ASCII that have a name. -/
def setNames : List String :=
  ["alnum", "alpha", "ascii", "blank", "cntrl", "digit", "graph", "lower", "print", "punct", "space",
    "upper", "word", "xdigit"]

/-- Reads a set that has a name, after its bracket. -/
def readNamed : List Char → Option (CharSet × List Char)
  | ':' :: rest =>
    let (complement, rest) := match rest with
      | '^' :: r => (true, r)
      | r => (false, r)
    let name := rest.takeWhile (· ≠ ':')
    match rest.drop name.length with
    | ':' :: ']' :: rest =>
      if String.ofList name ∈ setNames then some (⟨0, true, complement⟩, rest) else none
    | _ => none
  | _ => none

/-- Begins a set, after its bracket. -/
def openBracket (m : Mode) (s : List Char) : Bracket × List Char :=
  match m.pass s with
  | '^' :: rest => (⟨true, true, none, []⟩, rest)
  | rest => (⟨false, true, none, []⟩, rest)

/-- Reads the rest of a set, whose characters are fewer than `fuel`. Hyphens at its start, and a
closing bracket that would leave it empty, stand for themselves. -/
def readBracket (m : Mode) : Nat → Bracket → List Char → Option (CharSet × List Char)
  | 0, _, _ => none
  | fuel + 1, b, s =>
    let on := fun (read : CharSet × List Char) =>
      readBracket m fuel { b.add read.1 with fresh := false } read.2
    match m.pass s with
    | [] => none
    | '[' :: rest =>
      match readNamed rest with
      | some read => on read
      | none => do
        let (inner, rest) := openBracket m rest
        on (← readBracket m fuel inner rest)
    | ']' :: rest =>
      if b.fresh && b.joined.isEmpty then do on (← m.single? (.char ']' false), rest)
      else do pure (← b.close m, rest)
    | '-' :: rest =>
      if b.fresh then do readBracket m fuel (b.add (← m.single? (.char '-' false))) rest
      else
        match rest with
        | '-' :: rest => readBracket m fuel (b.operate .difference) rest
        | rest => do on (← readRange m ('-' :: rest))
    | '&' :: '&' :: rest => readBracket m fuel { b.operate .intersection with fresh := false } rest
    | '~' :: '~' :: rest =>
      readBracket m fuel { b.operate .symmetricDifference with fresh := false } rest
    | rest => do on (← readRange m rest)

/-- Reads a set, after its bracket. -/
def readSet (m : Mode) (s : List Char) : Option (CharSet × List Char) :=
  let (b, rest) := openBracket m s
  readBracket m (rest.length + 1) b rest

end ConfirmedDelivery.Text.Pattern
