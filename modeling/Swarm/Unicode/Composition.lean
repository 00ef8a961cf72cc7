import Swarm.Unicode.CombiningClass
import Swarm.Unicode.Decomposition

/-!
# Canonical composition

Texts that mean the same have one composed form: every character is written out, marks are put
in the order of their classes, and then each character is joined with the marks after it as far
as there are characters for that.

## Main definitions

* `Unicode.ordered`: marks put in the order of their classes
* `Unicode.composed`: characters joined with the marks after them
* `Unicode.normalize`: the composed form of a text
-/

namespace Swarm.Unicode

/-- The class of a code point. -/
def classOf (code : Nat) : Nat :=
  combiningClass (Char.ofNat code)

/-- Puts a character before characters that are in order: a mark moves behind the marks of lower
classes that follow it. -/
def place (code : Nat) : List Nat → List Nat
  | [] => [code]
  | next :: rest =>
    if 0 < classOf next ∧ classOf next < classOf code then next :: place code rest
    else code :: next :: rest

/-- The marks after each character put in the order of their classes; marks of one class keep
their order. -/
def ordered (codes : List Nat) : List Nat :=
  codes.foldr place []

/-- Joins a character with those that follow. The marks of `between`, the latest first, stand
between them and the character, and the last of them has class `last`. -/
def joined (base : Nat) (between : List Nat) (last : Nat) : List Nat → List Nat
  | [] => base :: between.reverse
  | code :: rest =>
    let cls := classOf code
    -- A mark of the same class in between keeps the character from being joined.
    let free := between.isEmpty || last < cls
    match if free then composite? base code else none with
    | some whole => joined whole between last rest
    | none =>
      if cls = 0 then base :: between.reverse ++ joined code [] 0 rest
      else joined base (code :: between) cls rest

/-- Every character joined with the marks after it, as far as there are characters for that.
Marks at the beginning of the text stay as they are. -/
def composed : List Nat → List Nat
  | [] => []
  | code :: rest =>
    if classOf code = 0 then joined code [] 0 rest else code :: composed rest

/-- The composed form of a text. -/
def normalize (text : List Char) : List Char :=
  (composed (ordered (text.flatMap fun c => decompose c.toNat))).map Char.ofNat

end Swarm.Unicode
