import ConfirmedDelivery.Text.Alphanumeric
import ConfirmedDelivery.Text.Pattern.Bracket

/-!
# Whether a pattern can be matched with

A pattern is read as alternatives, each of them a sequence of parts: atoms, sets and groups, each of
which may be repeated. It has to be well-formed, nested not too deep, and free of edges of words,
which cannot be told without knowing the letters.

Patterns come out of braces and hold no closing one. So a number of repetitions cannot be written.
-/

namespace ConfirmedDelivery.Text.Pattern

/-- Why a text is no pattern to match with. -/
inductive Fault where
  | malformed
  | wordEdge
deriving DecidableEq

def Fault.message : Fault → String
  | .malformed => "error building NFA"
  | .wordEdge =>
    "unsupported regex feature for DFAs: cannot build DFAs for regexes with Unicode word "
      ++ "boundaries; switch to ASCII word boundaries, or heuristically enable Unicode word "
      ++ "boundaries or use a different regex engine"

/-- How deep a pattern may be nested. -/
def depthLimit : Nat := 250

/-- What holds at a place of a pattern. -/
structure State where
  mode : Mode
  /-- The names that groups have. -/
  names : List String
  /-- Whether there was an edge of words. -/
  wordEdge : Bool

/-- A part of a sequence. -/
structure Part where
  depth : Nat
  /-- Whether it can be repeated. -/
  repeatable : Bool

/-- How much of some alternatives has been read. -/
structure Progress where
  /-- The depths of the alternatives that are complete. -/
  complete : List Nat
  /-- The parts of the next one, the last first. -/
  parts : List Part

namespace Progress

/-- Nothing has been read. -/
def start : Progress := ⟨[], []⟩

/-- Takes in a part. -/
def add (p : Progress) (depth : Nat) : Progress := { p with parts := ⟨depth, true⟩ :: p.parts }

/-- Repeats the last part. -/
def again? (p : Progress) : Option Progress :=
  match p.parts with
  | ⟨depth, true⟩ :: rest => some { p with parts := ⟨depth + 1, true⟩ :: rest }
  | _ => none

/-- How deep the last alternative is nested. -/
def sequenceDepth (p : Progress) : Nat :=
  match p.parts with
  | [] => 0
  | [part] => part.depth
  | parts => deepest (parts.map Part.depth) + 1

/-- Begins another alternative. -/
def another (p : Progress) : Progress := ⟨p.sequenceDepth :: p.complete, []⟩

/-- How deep the alternatives are nested. -/
def depth (p : Progress) : Nat :=
  match p.complete with
  | [] => p.sequenceDepth
  | depths => deepest (p.sequenceDepth :: depths) + 1

end Progress

/-! ## Groups -/

/-- The mode with a flag set or taken back. Flags that do not matter here keep it. -/
def Mode.flag? (m : Mode) (on : Bool) (letter : Char) : Option Mode :=
  if letter = 'x' then some { m with spaced := on }
  else if letter = 'i' then some { m with caseless := on }
  else if letter = 'u' then some { m with unicode := on }
  else if letter ∈ ['m', 's', 'U', 'R'] then some m
  else none

/-- Reads flags up to a colon or a closing parenthesis. Each flag, and the hyphen that takes back the
flags after it, comes once; the hyphen is not the last. -/
def readFlags (seen : List Char) (m : Mode) : List Char → Option (Mode × List Char)
  | [] => none
  | c :: rest =>
    if c = ':' ∨ c = ')' then
      if seen.head? = some '-' ∨ (seen.isEmpty ∧ c = ')') then none else some (m, c :: rest)
    else if c ∈ seen then none
    else if c = '-' then readFlags (c :: seen) m rest
    else do readFlags (c :: seen) (← m.flag? (!seen.contains '-') c) rest

/-- Whether a group may have that name: letters, digits and a few signs, at first neither digit nor
sign. Of digits beyond ASCII one at first is let pass. -/
def isGroupName : List Char → Bool
  | [] => false
  | c :: rest =>
    (c == '_' || (isAlphanumeric c && !c.isDigit))
      && rest.all fun c => c ∈ ['_', '.', '[', ']'] || isAlphanumeric c

/-- Reads the name of a group up to its bracket. -/
def readName (st : State) (s : List Char) : Option (State × List Char) :=
  let name := s.takeWhile (· ≠ '>')
  match s.drop name.length with
  | [] => none
  | _ :: rest =>
    if isGroupName name && !st.names.contains (String.ofList name) then
      some ({ st with names := String.ofList name :: st.names }, rest)
    else none

/-- What an opening parenthesis begins. -/
inductive Opening where
  /-- A group, and what holds within it. -/
  | group (inner : State)
  /-- Nothing; another mode holds from here on. -/
  | flags (mode : Mode)

/-- Reads what follows an opening parenthesis. -/
def readOpening (st : State) (s : List Char) : Option (Opening × List Char) :=
  match st.mode.pass s with
  | '?' :: 'P' :: '<' :: rest => (readName st rest).map fun r => (.group r.1, r.2)
  | '?' :: '<' :: rest => (readName st rest).map fun r => (.group r.1, r.2)
  | '?' :: rest => do
    match ← readFlags [] st.mode rest with
    | (mode, ':' :: rest) => some (.group { st with mode }, rest)
    | (mode, rest) => some (.flags mode, rest.drop 1)
  | rest => some (.group st, rest)

/-! ## Sequences -/

/-- Reads an atom outside sets. -/
def readAtom (st : State) : List Char → Option (State × List Char)
  | [] => none
  | '\\' :: rest => do
    let (atom, rest) ← escape st.mode rest
    if st.mode.allows atom then
      let edge := atom == .wordEdge && st.mode.unicode
      some ({ st with wordEdge := st.wordEdge || edge }, rest)
    else none
  | c :: rest =>
    if c = '^' ∨ c = '$' then some (st, rest)
    else if if c = '.' then st.mode.unicode else st.mode.allows (.char c false) then some (st, rest)
    else none

/-- Reads alternatives up to the parenthesis that closes them or the end, of fewer characters than
`fuel`: how deep they are nested, what holds after them, and the rest. -/
def readBody : Nat → State → Progress → List Char → Option (Nat × State × List Char)
  | 0, _, _, _ => none
  | fuel + 1, st, p, s =>
    match st.mode.pass s with
    | [] => some (p.depth, st, [])
    | ')' :: rest => some (p.depth, st, ')' :: rest)
    | '|' :: rest => readBody fuel st p.another rest
    | '(' :: rest => do
      match ← readOpening st rest with
      | (.flags mode, rest) =>
        readBody fuel { st with mode } { p with parts := ⟨0, false⟩ :: p.parts } rest
      | (.group inner, rest) =>
        match ← readBody fuel inner .start rest with
        | (depth, after, ')' :: rest) =>
          readBody fuel { after with mode := st.mode } (p.add (depth + 1)) rest
        | _ => none
    | '[' :: rest => do
      let (set, rest) ← readSet st.mode rest
      readBody fuel st (p.add set.depth) rest
    | '{' :: _ => none
    | c :: rest =>
      if c ∈ ['?', '*', '+'] then do
        let p ← p.again?
        match rest with
        | '?' :: rest => readBody fuel st p rest
        | rest => readBody fuel st p rest
      else do
        let (st, rest) ← readAtom st (c :: rest)
        readBody fuel st (p.add 0) rest

/-- Whether a text is a pattern to match with. -/
def check (pattern : String) : Except Fault Unit :=
  let s := pattern.toList
  match readBody (s.length + 1) ⟨.start, [], false⟩ .start s with
  | some (depth, st, []) =>
    if depthLimit < depth then .error .malformed
    else if st.wordEdge then .error .wordEdge
    else .ok ()
  | _ => .error .malformed

end ConfirmedDelivery.Text.Pattern
