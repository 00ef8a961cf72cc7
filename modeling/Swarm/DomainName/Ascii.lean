import Swarm.DomainName.Label
import Swarm.DomainName.Punycode
import Swarm.Text.Split

/-!
# Domain names in ASCII

A domain name in any script has a form in ASCII, which is what is looked up. Its characters are
mapped and composed; then each label with characters outside ASCII is written in Punycode behind
a mark, and a label that has the mark already must be one that could have been written so.

## Main definitions

* `DomainName.mapped?`: the characters of a name mapped and composed
* `DomainName.toAscii?`: the form of a name in ASCII
-/

namespace Swarm.DomainName

open Unicode

/-- What a label written in Punycode starts with. -/
def mark : List Char := ['x', 'n', '-', '-']

/-- Whether a domain name may not hold a character. -/
def isForbidden (c : Char) : Bool :=
  c.toNat ≤ 32 || c.toNat == 127 || "%#/:<>?@[\\]^|".contains c

/-- What becomes of a character, unless it is refused. -/
def replacement? (c : Char) : Option (List Char) :=
  match domainMapping c.toNat with
  | .itself => some [c]
  | .refused => none
  | .others codes => some (codes.map Char.ofNat)

/-- The characters of a name mapped one by one. -/
def replaced? (name : List Char) : Option (List Char) :=
  (name.mapM replacement?).map List.flatten

/-- The characters of a name mapped and composed, if none of them is refused. -/
def mapped? (name : List Char) : Option (List Char) :=
  (replaced? name).bind fun text =>
    let text := normalize text
    if text.any isForbidden then none else some text

/-- How many characters may stand behind the mark of a label that is read. -/
def maxWritten : Nat := 2000

/-- How many characters a label may have that is outside ASCII. -/
def maxLabel : Nat := 1000

/-- Whether a label outside ASCII is valid. -/
def isValidLabel (label : List Char) : Bool :=
  label.length ≤ maxLabel && Label.isValid label

/-- The label as it is read, if it is valid: one behind the mark is decoded. -/
def readLabel? (label : List Char) : Option (List Char) :=
  if mark.isPrefixOf label then
    let form := label.drop mark.length
    if maxWritten < form.length then none
    else (Punycode.decode? form).bind fun text =>
      -- A text in ASCII would not have been written this way.
      if text.any (128 ≤ ·.toNat) && isValidLabel text then some text
      else none
  else if label.all (·.toNat < 128) then some label
  else if isValidLabel label then some label
  else none

/-- The form of a label in ASCII. -/
def writeLabel (label : List Char) : List Char :=
  if label.all (·.toNat < 128) then label else mark ++ Punycode.encode label

/-- The form of a name in ASCII. -/
def toAscii? (name : List Char) : Option (List Char) := do
  let text ← mapped? name
  let labels ← (Text.splitAt '.' text).mapM readLabel?
  -- One label of the other direction binds all labels.
  if labels.any Label.hasRightToLeft && !labels.all Label.keepsDirection then none
  else some (List.intercalate ['.'] (labels.map writeLabel))

end Swarm.DomainName
