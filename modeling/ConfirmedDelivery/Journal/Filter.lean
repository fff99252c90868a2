import ConfirmedDelivery.Journal.Event
import ConfirmedDelivery.Number.Numeral
import ConfirmedDelivery.Text.Alphanumeric
import ConfirmedDelivery.Text.Casing
import ConfirmedDelivery.Text.Pattern.Check

/-!
# Filters

A filter tells which entries are shown. It is a list of directives with commas between them. A
directive names a level and may bind it to the entries whose target begins with a text, or which have
a field of a name: `level`, `target`, `target=level`, `target[{field}]=level`. A field may be bound to
a value, which is a number or a pattern. Of the directives that cover an entry the most specific one
decides, and an entry that none covers is not shown.

A filter has one threshold per directive: the greatest verbosity that is shown, zero for nothing.
-/

namespace ConfirmedDelivery

/-- Which entries are shown down to which level. -/
structure Directive where
  /-- What the target of an entry has to begin with. -/
  target : Option String
  /-- A field that an entry has to have. -/
  field : Option String
  /-- Whether it holds within a named span or for one value of a field only. No entry lies in a span
  or is looked at for its values, so such a directive covers none. -/
  narrowed : Bool
  /-- The greatest verbosity that is shown. -/
  threshold : Nat
deriving DecidableEq

namespace Directive

/-- Why a text is no directive. -/
inductive Fault where
  | malformed
  | unknownLevel
  /-- The value of a field is neither a number nor a pattern. -/
  | badValue (fault : Text.Pattern.Fault)
deriving DecidableEq

def Fault.message : Fault → String
  | .malformed => "invalid filter directive"
  | .badValue fault => "invalid field filter: " ++ fault.message
  | .unknownLevel =>
    "error parsing level filter: expected one of \"off\", \"error\", \"warn\", \"info\", \"debug\", "
      ++ "\"trace\", or a number 0-5"

/-- The threshold that shows everything. -/
def everything : Nat := Level.trace.verbosity

/-- The directive that stands in for missing ones: errors only. -/
def fallback : Directive := ⟨none, none, false, Level.error.verbosity⟩

/-- The threshold with that name, in any case, or that number. -/
def threshold? (text : String) : Option Nat :=
  let numbered := match readWord text with
    | .ok n => if n ≤ everything then some n else none
    | .error _ => none
  let names := [("off", 0), ("error", 1), ("warn", 2), ("info", 3), ("debug", 4), ("trace", 5)]
  numbered.orElse fun _ => names.lookup (String.ofList (text.toList.map Char.toLower))

/-- The threshold after an equals sign: everything if there is nothing. -/
def thresholdAfter (text : String) : Except Fault Nat :=
  if text.isEmpty then .ok everything
  else
    match threshold? text with
    | some n => .ok n
    | none => .error .unknownLevel

/-- Whether a target or a level can begin with a character. -/
def startsName (c : Char) : Bool :=
  c = '-' || c = ':' || c = '_' || Text.isAlphanumeric c

/-- The characters of a text from one place up to another one. -/
def cut (text : List Char) (first last : Nat) : String :=
  String.ofList ((text.take last).drop first)

/-- Reads what follows the bracket of a span: nothing, or an equals sign and a level. -/
def readTail (text : List Char) (d : Directive) (place : Nat) : List Char → Except Fault Directive
  | [] => .ok d
  | '=' :: _ =>
    (thresholdAfter (String.ofList (text.drop (place + 1)))).map fun n => { d with threshold := n }
  | _ => .error .malformed

/-- Binds a directive to a field: its name alone, or with an equals sign and a number or a pattern for
its value, which ends at another equals sign. -/
def bind (d : Directive) (field : String) : Except Fault Directive :=
  let name := field.toList.takeWhile (· ≠ '=')
  let bound := { d with field := some (String.ofList name) }
  if field.isEmpty then .error .malformed
  else
    match field.toList.drop name.length with
    | [] => .ok bound
    | _ :: rest =>
      let value := String.ofList (rest.takeWhile (· ≠ '='))
      match readReal value, Text.Pattern.check value with
      | .error _, .error fault => .error (.badValue fault)
      | _, _ => .ok { bound with narrowed := true }

/-- Reads a field in braces, which begins at `place`. -/
def readField (text : List Char) (d : Directive) (place : Nat) (rest : List Char) :
    Except Fault Directive :=
  let body := rest.takeWhile (· ≠ '\x7d')
  match rest.drop body.length with
  | [] => .error .malformed
  | _ :: tail => do
    let d ← d.bind (cut text place (place + body.length))
    match tail with
    | ']' :: tail => readTail text d (place + body.length + 2) tail
    | _ => .error .malformed

/-- Reads a span in brackets, whose name begins at `place`. -/
def readSpan (text : List Char) (target : Option String) (place : Nat) (rest : List Char) :
    Except Fault Directive :=
  let body := rest.takeWhile fun c => c ≠ ']' && c ≠ '\x7b'
  let d : Directive := ⟨target, none, true, everything⟩
  match rest.drop body.length with
  | ']' :: tail => readTail text d (place + body.length + 1) tail
  | _ :: tail => readField text { d with narrowed := !body.isEmpty } (place + body.length + 1) tail
  | [] => .error .malformed

/-- Reads a directive. Blanks around it are passed over when its signs are looked for, but names and
levels are cut from the text as it stands, at the places that the signs would have without them. -/
def read (directive : String) : Except Fault Directive :=
  let text := directive.toList
  match (Text.trim directive).toList with
  | [] => .error .malformed
  | '[' :: rest => readSpan text none 1 rest
  | c :: rest =>
    if startsName c then
      let name := rest.takeWhile fun c => c ≠ '=' && c ≠ '['
      let place := name.length + 1
      let target := some (cut text 0 place)
      match rest.drop name.length with
      | [] =>
        .ok <| match threshold? directive with
          | some n => ⟨none, none, false, n⟩
          | none => ⟨some directive, none, false, everything⟩
      | '=' :: _ =>
        (thresholdAfter (String.ofList (text.drop (place + 1)))).map fun n =>
          ⟨target, none, false, n⟩
      | _ :: tail => readSpan text target (place + 1) tail
    else .error .malformed

/-- Whether a directive says something about an entry. -/
def covers (d : Directive) (e : Entry) : Bool :=
  d.target.all (fun t => t.toList.isPrefixOf e.source.target.toList)
    && d.field.all fun name => name == "message" || e.fields.any fun f => f.1 == name

/-- How specific a directive is about its target. -/
def reach (d : Directive) : Nat :=
  match d.target with
  | none => 0
  | some t => t.length + 1

/-- Whether a directive is at most as specific as another one: the longer target is the more specific,
then the one with a field, then the one whose field comes later in the alphabet. -/
def atMost (a b : Directive) : Bool :=
  decide (a.reach < b.reach)
    || (a.reach == b.reach
      && (match a.field, b.field with
        | none, _ => true
        | some _, none => false
        | some x, some y => decide (x ≤ y)))

end Directive

/-- Which entries are shown. -/
structure Filter where
  directives : List Directive
deriving DecidableEq

namespace Filter

/-- The filter of some directives. -/
def ofDirectives (ds : List Directive) : Filter := ⟨ds.filter (!·.narrowed)⟩

/-- The more specific of two directives, of equals the later one. -/
def pick (best : Option Directive) (d : Directive) : Option Directive :=
  match best with
  | none => some d
  | some b => some (if b.atMost d then d else b)

/-- The directive that decides about an entry. -/
def decisive? (f : Filter) (e : Entry) : Option Directive :=
  (f.directives.filter (·.covers e)).foldl pick none

/-- Whether an entry is shown. -/
def shows (f : Filter) (e : Entry) : Bool :=
  (f.decisive? e).any fun d => decide (e.level.verbosity ≤ d.threshold)

/-- The directives of a text, empty ones left out. -/
def pieces (text : String) : List String :=
  ((text.toList.splitOnP (· = ',')).map String.ofList).filter (!·.isEmpty)

/-- The filter that a text describes, if each of its directives is one. Without any it shows
nothing. -/
def read (text : String) : Except Directive.Fault Filter :=
  ((pieces text).mapM Directive.read).map ofDirectives

/-- The filter that a text describes, and a complaint for each directive that is none. Without any it
shows errors only. -/
def readLenient (text : String) : Filter × List String :=
  let results := (pieces text).map fun piece => (piece, Directive.read piece)
  let ds := results.filterMap fun r => r.2.toOption
  (ofDirectives (if ds.isEmpty then [.fallback] else ds),
    results.filterMap fun r => match r.2 with
      | .ok _ => none
      | .error fault => some ("ignoring \x60" ++ r.1 ++ "\x60: " ++ fault.message))

/-- The filter that is asked for by a text that counts only as a whole, otherwise by a second one. -/
def choose (first : Option String) (second : String) : Filter × List String :=
  match first.map read with
  | some (.ok f) => (f, [])
  | _ => readLenient second

end Filter

end ConfirmedDelivery
