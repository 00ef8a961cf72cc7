import Swarm.Unicode.Composition
import Swarm.Unicode.Direction
import Swarm.Unicode.DomainMapping
import Swarm.Unicode.Joining
import Swarm.Unicode.Mark

/-!
# Labels of domain names

A label is what stands between two dots of a domain name. It is in composed form, holds only
characters that are kept as they are, does not start with a mark, and uses an invisible joiner
only where it makes a difference. Where scripts of both directions meet in a name, every label
keeps to one of them.

## Main definitions

* `Label.isValid`: the rules for a label by itself
* `Label.hasRightToLeft`, `Label.keepsDirection`: the rule for the labels of a name that has a
  script written from right to left
-/

namespace Swarm.DomainName.Label

open Unicode

/-- Whether a character is kept as it is. -/
def isKept (c : Char) : Bool :=
  match domainMapping c.toNat with
  | .itself => true
  | _ => false

/-- The invisible character that keeps two letters apart. -/
def nonJoiner : Char := '\u200c'

/-- The invisible character that joins two letters. -/
def joiner : Char := '\u200d'

/-- Whether the letters on both sides of a place join there, marks between them aside. The
characters before the place are given from the latest on. -/
def joinsAcross (before after : List Char) : Bool :=
  ((before.dropWhile isTransparent).head?.any joinsNext) &&
    ((after.dropWhile isTransparent).head?.any joinsPrevious)

/-- Whether every invisible joiner stands behind a sign that suppresses a vowel, or keeps letters
apart that would join. The characters of `before` come before, the latest first. -/
def joinersMatter (before : List Char) : List Char → Bool
  | [] => true
  | c :: rest =>
    let isFine :=
      if c = nonJoiner then before.head?.any isVirama || joinsAcross before rest
      else if c = joiner then before.head?.any isVirama
      else true
    isFine && joinersMatter (c :: before) rest

/-- Whether a label keeps the rules for a label by itself. -/
def isValid (label : List Char) : Bool :=
  normalize label == label && !label.head?.any isMark && label.all isKept &&
    joinersMatter [] label

/-- Whether a label has a character of a script written from right to left. -/
def hasRightToLeft (label : List Char) : Bool :=
  label.any fun c => direction c ∈ [.rightToLeft, .arabicLetter, .arabicNumber]

/-- The class of the last character of a label, marks aside. -/
def lastDirection? (label : List Char) : Option Direction :=
  (label.reverse.map direction).find? (· ≠ .nonspacing)

/-- The classes that a label of either direction may have. -/
def sharedDirections : List Direction :=
  [.europeanNumber, .separator, .commonSeparator, .terminator, .neutral, .boundary, .nonspacing]

/-- Whether a label keeps to the direction of its first character. -/
def keepsDirection (label : List Char) : Bool :=
  match label.map direction with
  | [] => true
  | first :: rest =>
    -- The first character decides; what else a label may hold depends on its direction.
    let all := first :: rest
    if first = .rightToLeft ∨ first = .arabicLetter then
      all.all (fun d => d ∈ [.rightToLeft, .arabicLetter, .arabicNumber] ++ sharedDirections) &&
        (lastDirection? label).any
          (· ∈ [.rightToLeft, .arabicLetter, .europeanNumber, .arabicNumber]) &&
        !(all.contains .europeanNumber && all.contains .arabicNumber)
    else if first = .leftToRight then
      all.all (fun d => d ∈ .leftToRight :: sharedDirections) &&
        (lastDirection? label).any (· ∈ [.leftToRight, .europeanNumber])
    else false

end Swarm.DomainName.Label
