import ConfirmedDelivery.Console.Options

/-!
# Arguments

A command line is a list of arguments. A value follows its option as the next argument or after an
equals sign. An argument that looks like an option is never a value, and since nothing stands for
itself, whatever is no option and no value is refused. That happens at once, while a value is read
only when the next option comes or the line ends.
-/

namespace ConfirmedDelivery.Console

/-- What an argument looks like. -/
inductive Argument where
  /-- Two hyphens: no options follow. -/
  | separator
  /-- A word after two hyphens, and a value after an equals sign. -/
  | long (word : String) (value : Option String)
  /-- A character after one hyphen; what follows it is not looked at. -/
  | short (mark : Char)
  | plain
deriving DecidableEq

namespace Argument

/-- What a text looks like. -/
def ofText (text : String) : Argument :=
  match text.toList with
  | ['-', '-'] => .separator
  | '-' :: '-' :: rest =>
    let word := rest.takeWhile (· ≠ '=')
    .long (String.ofList word) <| match rest.drop word.length with
      | [] => none
      | _ :: value => some (String.ofList value)
  | '-' :: mark :: _ => .short mark
  | _ => .plain

end Argument

/-- An option whose value is not read yet, or not even seen. -/
structure Pending where
  name : OptionName
  value : Option String

namespace Options

/-- Reads the value of the option that waits for it. -/
def settle (o : Options) : Option Pending → Except Refusal Options
  | none => .ok o
  | some ⟨name, none⟩ => .error (.valueMissing name)
  | some ⟨name, some value⟩ => o.give name value

/-- Takes an option, with the value after its equals sign. -/
def take (o : Options) (pending : Option Pending) (name : OptionName) :
    Option String → Except Refusal (Options × Option Pending)
  | none => do
    let o ← o.settle pending
    if name.valued then pure (o, some ⟨name, none⟩) else pure (← o.give name "", none)
  | some value => do
    if name.valued then pure (← (← o.settle pending).give name value, none)
    else throw (.valueUnwanted name.shown value)

/-- Asks for help, which has no value. -/
def askHelp (o : Options) (pending : Option Pending) : Option String → Except Refusal Options
  | none => do
    let _ ← o.settle pending
    throw .helpWanted
  | some value => throw (.valueUnwanted "--help" value)

/-- Reads arguments one after another. -/
def scan (o : Options) (pending : Option Pending) : List String → Except Refusal Options
  | [] => o.settle pending
  | text :: rest =>
    match Argument.ofText text with
    | .separator =>
      match rest with
      | [] => o.settle pending
      | next :: _ => .error (.unexpected next)
    | .long word value =>
      match OptionName.ofWord? word with
      | some name =>
        match o.take pending name value with
        | .ok (o, pending) => o.scan pending rest
        | .error refusal => .error refusal
      | none =>
        if word = "help" then o.askHelp pending value else .error (.unexpected ("--" ++ word))
    | .short mark =>
      if mark = 'h' then o.askHelp pending none
      else .error (.unexpected (String.ofList ['-', mark]))
    | .plain =>
      match pending with
      | some ⟨name, none⟩ => o.scan (some ⟨name, some text⟩) rest
      | _ => .error (.unexpected text)

/-- The options of a command line. Where it names no file of settings the environment may. -/
def read (env : Settings.Environment) (arguments : List String) : Except Refusal Options := do
  let o ← silent.scan none arguments
  match o.config, env configVariable with
  | none, some value => o.give .config value
  | _, _ => pure o

end Options

end ConfirmedDelivery.Console
