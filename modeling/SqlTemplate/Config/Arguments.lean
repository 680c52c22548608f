import SqlTemplate.Config.Basic

/-!
# SqlTemplate.Config.Arguments

Settings read from a command line. There is one option, which takes a value either attached by an
equals sign or as the next argument, and a flag that asks for help. What the command line leaves
open is taken from the environment.
-/

namespace SqlTemplate.Config

inductive ArgumentError where
  | unknownArgument
  | invalidValue
  | tooManyValues
  | argumentConflict
  | displayHelp
deriving DecidableEq, Repr

/-- The value read so far; the option named last, with its value once it has been met; and whether
options have come to an end. -/
structure ArgumentState where
  value : Option String := none
  pending : Option (Option String) := none
  optionsEnded : Bool := false
deriving DecidableEq, Repr

namespace ArgumentState

/-- The option takes one value, once. -/
def assign (state : ArgumentState) (value : String) : Except ArgumentError ArgumentState :=
  match state.value with
  | some _ => .error .argumentConflict
  | none => .ok { state with value := some value, pending := none }

/-- Completes the option named last. -/
def settle (state : ArgumentState) : Except ArgumentError ArgumentState :=
  match state.pending with
  | none => .ok state
  | some none => .error .invalidValue
  | some (some value) => state.assign value

def readOption (state : ArgumentState) (attached : Option String) :
    Except ArgumentError ArgumentState :=
  match state.settle with
  | .error error => .error error
  | .ok settled =>
    match attached with
    | some value => settled.assign value
    | none => .ok { settled with pending := some none }

def readHelp (state : ArgumentState) : Except ArgumentError ArgumentState :=
  match state.settle with
  | .error error => .error error
  | .ok _ => .error .displayHelp

/-- Reads an argument after its two hyphens. -/
def readLong (state : ArgumentState) (argument : List Char) : Except ArgumentError ArgumentState :=
  let name := String.ofList (argument.takeWhile (· != '='))
  let attached :=
    match argument.dropWhile (· != '=') with
    | [] => none
    | _ :: value => some (String.ofList value)
  if name = "injection-filter" then state.readOption attached
  else if name = "help" then
    if attached.isSome then .error .tooManyValues else state.readHelp
  else .error .unknownArgument

/-- Only an option that waits for its value takes an argument that is no option. -/
def readPlain (state : ArgumentState) (argument : String) :
    Except ArgumentError ArgumentState :=
  match state.pending with
  | some none => .ok { state with pending := some (some argument) }
  | _ => .error .unknownArgument

def read (state : ArgumentState) (argument : String) : Except ArgumentError ArgumentState :=
  if state.optionsEnded then .error .unknownArgument
  else
    match argument.toList with
    | ['-', '-'] => .ok { state with optionsEnded := true }
    | '-' :: '-' :: rest => state.readLong rest
    | '-' :: flag :: _ => if flag = 'h' then state.readHelp else .error .unknownArgument
    | _ => state.readPlain argument

def readAll (state : ArgumentState) : List String → Except ArgumentError ArgumentState
  | [] => state.settle
  | argument :: rest =>
    match state.read argument with
    | .error error => .error error
    | .ok next => next.readAll rest

end ArgumentState

/-- The first argument is the name of the program. -/
def ofArguments (arguments : List String) (environment : Option String) :
    Except ArgumentError Config :=
  match ({} : ArgumentState).readAll (arguments.drop 1) with
  | .error error => .error error
  | .ok state => .ok { injectionFilter := state.value <|> environment }

end SqlTemplate.Config
