/-!
# Arguments

The program is given the path of a torrent file and up to three options, each at most once and
in any place: the port it announces, how many peers it dials at most, and how many seconds it
waits for each. The value of an option follows it or stands behind an equals sign; behind `--`
no argument is an option.

## Main definitions

* `Options`: what the program is asked to do
* `Options.parse?`: what the arguments ask for, if they are in order
-/

namespace Swarm.Command

/-- What the program is asked to do. -/
structure Options where
  /-- The path of the torrent file. -/
  path : String
  /-- The port that is announced. -/
  port : UInt16
  /-- How many peers are dialled at most. -/
  maxPeers : Nat
  /-- How many seconds each may take. -/
  timeout : Nat
  deriving DecidableEq

/-- The arguments seen so far. -/
structure Seen where
  path : Option String
  port : Option UInt16
  maxPeers : Option Nat
  timeout : Option Nat

/-- The number that digits stand for. -/
def digits? (text : List Char) : Option Nat :=
  if text.isEmpty || !text.all Char.isDigit then none
  else some (text.foldl (fun value c => value * 10 + (c.toNat - 48)) 0)

/-- The number of at most 64 bits that digits, after an optional plus sign, stand for. -/
def word? (text : List Char) : Option Nat :=
  (digits? (if text.head? = some '+' then text.drop 1 else text)).filter (· < UInt64.size)

/-- The port that digits, after an optional sign, stand for. -/
def port? (text : List Char) : Option UInt16 :=
  -- Zero may have either sign.
  let number := match text with
    | '-' :: digits => (digits? digits).filter (· = 0)
    | _ => word? text
  (number.filter (· < 65536)).map UInt16.ofNat

namespace Seen

/-- No argument has been seen. -/
def none : Seen :=
  ⟨.none, .none, .none, .none⟩

/-- Takes the path of the file, which cannot be empty or given twice. -/
def takePath (seen : Seen) (path : String) : Option Seen :=
  if path.isEmpty || seen.path.isSome then .none else some { seen with path := some path }

/-- Takes the value of an option, which cannot be given twice. -/
def takeOption (seen : Seen) (name value : String) : Option Seen :=
  let text := value.toList
  if name = "--port" ∧ seen.port = .none then
    (port? text).map fun port => { seen with port := some port }
  else if name = "--max-peers" ∧ seen.maxPeers = .none then
    (word? text).map fun count => { seen with maxPeers := some count }
  else if name = "--timeout" ∧ seen.timeout = .none then
    (word? text).map fun seconds => { seen with timeout := some seconds }
  else .none

/-- Takes the arguments behind `--`. -/
def takePaths (seen : Seen) (arguments : List String) : Option Seen :=
  arguments.foldlM takePath seen

/-- Whether an argument is an option, with or without a value. -/
def isOption (argument : String) : Bool :=
  argument.startsWith "-" && argument ≠ "-"

/-- The name of an option and the value behind its equals sign, if there is one. -/
def splitOption (argument : String) : String × Option String :=
  let text := argument.toList
  match text.dropWhile (· != '=') with
  | [] => (argument, .none)
  | _ :: value => (String.ofList (text.takeWhile (· != '=')), some (String.ofList value))

/-- Takes arguments one after the other. -/
def takeAll (seen : Seen) : List String → Option Seen
  | [] => some seen
  | "--" :: rest => seen.takePaths rest
  | argument :: rest =>
    if !isOption argument then (seen.takePath argument).bind (takeAll · rest)
    else match splitOption argument with
      | (name, some value) => (seen.takeOption name value).bind (takeAll · rest)
      | (name, .none) =>
        match rest with
        | [] => .none
        | value :: rest =>
          -- What looks like an option is never a value.
          if isOption value then .none
          else (seen.takeOption name value).bind (takeAll · rest)

end Seen

/-- What the arguments ask for, if they are in order. -/
def Options.parse? (arguments : List String) : Option Options :=
  (Seen.none.takeAll arguments).bind fun seen =>
    seen.path.map fun path =>
      { path
        port := seen.port.getD 6881
        maxPeers := seen.maxPeers.getD 5
        timeout := seen.timeout.getD 5 }

end Swarm.Command
