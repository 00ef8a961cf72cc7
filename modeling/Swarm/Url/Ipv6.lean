import Swarm.Url.Ipv4

/-!
# Addresses of sixteen octets

A host in brackets is an address of sixteen octets: eight groups of up to four hexadecimal digits
with colons between them. One run of zero groups can be left out, and the last two groups can be
written as an address of four octets.

## Main definitions

* `Ipv6`: an address
* `Ipv6.parse?`: the address that a text is
* `Ipv6.text`: the text of an address, without its longest run of zeros
-/

namespace Swarm.Url

/-- An address of sixteen octets, as its eight groups. -/
structure Ipv6 where
  groups : List Nat
  deriving DecidableEq

namespace Ipv6

/-- A group of up to four hexadecimal digits. -/
def group? (digits : List Char) : Option Nat :=
  if digits.isEmpty || 4 < digits.length then none else Ipv4.ofDigits? 16 digits

/-- An octet in decimal, without leading zeros. -/
def octet? (digits : List Char) : Option Nat :=
  if digits.isEmpty || 3 < digits.length || (digits.head? == some '0' && 1 < digits.length) then
    none
  else (Ipv4.ofDigits? 10 digits).filter (· < 256)

/-- The two groups that an address of four octets makes. -/
def tail? (text : List Char) : Option (List Nat) :=
  match (Text.splitAt '.' text).mapM octet? with
  | some [a, b, c, d] => some [a * 256 + b, c * 256 + d]
  | _ => none

/-- The groups of a text without a gap, the last of which can be an address of four octets if
`isEnd`. -/
def groups? (isEnd : Bool) (text : List Char) : Option (List Nat) :=
  let parts := Text.splitAt ':' text
  let first := parts.dropLast.mapM group?
  let last := parts.getLast?.bind fun part =>
    if isEnd && part.contains '.' then tail? part else (group? part).map ([·])
  first.bind fun first => last.map fun last => first ++ last

/-- The parts of a text before and after its first two colons in a row. -/
def splitGap? : List Char → Option (List Char × List Char)
  | ':' :: ':' :: rest => some ([], rest)
  | c :: rest => (splitGap? rest).map fun (before, after) => (c :: before, after)
  | [] => none

/-- The groups on one side of a gap; there may be none. -/
def side? (isEnd : Bool) (text : List Char) : Option (List Nat) :=
  if text.isEmpty then some [] else groups? isEnd text

/-- The address that a text is. -/
def parse? (text : List Char) : Option Ipv6 :=
  match splitGap? text with
  | none => ((groups? true text).filter (·.length = 8)).map (⟨·⟩)
  | some (before, after) =>
    match side? false before, side? true after with
    | some before, some after =>
      -- The gap stands for at least one group.
      let missing := 8 - (before.length + after.length)
      if missing = 0 then none else some ⟨before ++ List.replicate missing 0 ++ after⟩
    | _, _ => none

/-- The lengths of the runs of zeros that start at each group. -/
def zeroRuns : List Nat → List Nat
  | [] => []
  | group :: rest =>
    let runs := zeroRuns rest
    (if group = 0 then runs.headD 0 + 1 else 0) :: runs

/-- Where the first of the longest runs of at least two zeros starts, and its length. -/
def longestRun? (groups : List Nat) : Option (Nat × Nat) :=
  let runs := zeroRuns groups
  let longest := runs.foldl max 0
  if longest < 2 then none else some (runs.idxOf longest, longest)

/-- Groups in hexadecimal, colons between them. -/
def groupsText (groups : List Nat) : String :=
  ":".intercalate (groups.map fun group => String.ofList (Nat.toDigits 16 group))

/-- The text of an address. -/
def text (address : Ipv6) : String :=
  match longestRun? address.groups with
  | none => groupsText address.groups
  | some (start, length) =>
    groupsText (address.groups.take start) ++ "::" ++
      groupsText (address.groups.drop (start + length))

end Ipv6

end Swarm.Url
