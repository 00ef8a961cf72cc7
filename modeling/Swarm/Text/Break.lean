/-!
# Line breaks

A text that is copied over several lines has line breaks and tabs in it that are no part of it.

## Main definitions

* `Text.withoutBreaks`: the text on one line
-/

namespace Swarm.Text

/-- Whether a character is a line break or a tab. -/
def isBreak (c : Char) : Bool :=
  c == '\t' || c == '\n' || c == '\r'

/-- The text on one line. -/
def withoutBreaks (text : List Char) : List Char :=
  text.filter (!isBreak ·)

end Swarm.Text
