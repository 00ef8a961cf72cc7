import Swarm.Unicode.CodeSet

/-!
# Writing directions

Every character has a class that tells how it is placed where scripts of both directions meet. A
character of no other class is a letter written from left to right.

## Main definitions

* `Direction`: the classes
* `Unicode.direction`: the class of a character
-/

namespace Swarm.Unicode

/-- How a character is placed where scripts of both directions meet. -/
inductive Direction where
  /-- Letters written from left to right. -/
  | leftToRight
  /-- Letters written from right to left. -/
  | rightToLeft
  /-- Arabic letters. -/
  | arabicLetter
  /-- Arabic digits. -/
  | arabicNumber
  /-- European digits. -/
  | europeanNumber
  /-- Signs between European digits. -/
  | separator
  /-- Separators between digits. -/
  | commonSeparator
  /-- Signs after European digits. -/
  | terminator
  /-- Neutral characters. -/
  | neutral
  /-- Characters that are passed over. -/
  | boundary
  /-- Marks that take no room. -/
  | nonspacing
  deriving DecidableEq

/-- Letters written from right to left: the gaps and lengths of their ranges. -/
def rightToLeftText : List String :=
  [
    "5be 1 1 1 2 1 2 1 9 1b 4 6 1cb 2b 9 2 4 1 3 18 4 1 9 1 3 1 7 f 1 19 5 1 f2be 1 1 a 1 d 1 5 1",
    "1 1 2 1 2 1 a cb0 6 2 1 1 2c 1 2 3 1 2 17 1 48 8 9 30 13 1 2 5 21 4 1a 5 1b 26 38 4 14 2 2f",
    "f 4 1 3 1 1d a 9 7 9 7 40 20 25 6 c 9 36 a 16 2 1b 5 1a 7 4 c 7 50 49 37 33 d 33 7 6 4a 1c 9",
    "17 8 2 f0 2a 3 1 2 2 4e 28 48 12 4 4 26 1c 14 17 d809 c5 2 9 30 44 7 1 4 a 4 2"
  ]

/-- Letters written from right to left. -/
def rightToLeftSet : CodeSet := .ofGaps rightToLeftText

/-- Arabic letters: the gaps and lengths of their ranges. -/
def arabicLetterText : List String :=
  [
    "608 1 2 1 1 1 d 1 1 2e 22 3 1 65 f 2 7 2 a 14 2 1 1 1e 1d 59 b 1 ae b 5 20 10 2a f286 73 10",
    "16b 12 40 2 36 28 d 73 5 1 87 e03 24 19e 6 11 16 41 16 b 9 dd17 44 4c 3d c2 4 1 1b 1 2 1 1 2",
    "1 1 a 1 4 1 1 1 1 6 1 4 1 1 1 1 1 1 3 1 2 1 1 2 1 1 1 1 1 1 1 1 1 1 2 1 1 2 4 1 7 1 4 1 4 1",
    "1 1 a 1 11 5 3 1 5 1 11"
  ]

/-- Arabic letters. -/
def arabicLetterSet : CodeSet := .ofGaps arabicLetterText

/-- Arabic digits: the gaps and lengths of their ranges. -/
def arabicNumberText : List String :=
  [
    "660 a 1 2 106c3 a 6 a 116 1f"
  ]

/-- Arabic digits. -/
def arabicNumberSet : CodeSet := .ofGaps arabicNumberText

/-- European digits: the gaps and lengths of their ranges. -/
def europeanNumberText : List String :=
  [
    "30 a 78 2 5 1 636 a 1976 1 3 6 6 a de86 a 3c7 1b c9f4 a ad4 32 1901 a ae5 a"
  ]

/-- European digits. -/
def europeanNumberSet : CodeSet := .ofGaps europeanNumberText

/-- Signs between European digits: the gaps and lengths of their ranges. -/
def separatorText : List String :=
  [
    "2b 1 1 1 204c 2 e 2 186 1 d916 1 338 2 a7 1 1 1"
  ]

/-- Signs between European digits. -/
def separatorSet : CodeSet := .ofGaps separatorText

/-- Separators between digits: the gaps and lengths of their ranges. -/
def commonSeparatorText : List String :=
  [
    "2c 1 1 2 a 1 65 1 56b 1 1a22 1 14 1 de0b 1 4 1 b6 1 1 2 a 1"
  ]

/-- Separators between digits. -/
def commonSeparatorSet : CodeSet := .ofGaps commonSeparatorText

/-- Signs after European digits: the gaps and lengths of their ranges. -/
def terminatorText : List String :=
  [
    "23 3 7c 4 a 2 4dd 1 79 2 5f 1 387 2 7 1 f5 1 107 1 245 1 99b 1 854 5 6b 25 69 1 e4 1 8624 2",
    "5625 1 9 2 98 3 da 2 3 2 1ff6 4 c31e 1"
  ]

/-- Signs after European digits. -/
def terminatorSet : CodeSet := .ofGaps terminatorText

/-- Neutral characters: the gaps and lengths of their ranges. -/
def neutralText : List String :=
  [
    "21 2 3 5 10 6 1a 6 1a 4 22 1 4 4 1 2 1 2 4 1 1 3 2 5 17 1 1f 1 1c1 2 7 e 2 e 5 9 1 11 74 2 8",
    "1 5 2 1 1 6e 1 193 1 2 2 77 2 6 2 ce 1 a 1 10c 4 3f9 6 1 1 7d 7 2bb 4 452 a 66 1 29a 2 153 a",
    "6 b 135 1 3 2 98 22 5bd 1 1 3 b 3 d 3 d 3 d 2 11 14 3 1 d f 1 1a 1d 3 d 4 70 2 1 4 1 2 a 1 1",
    "3 5 6 1 1 1 1 1 1 10 2 4 5 5 4 2 10 29 3 4 82 2 122 45 1a 1 94 16 b 15 28 62 1c2 1 153 100",
    "274 2 8a e5 6 e 7 100 5e 2 1 1f 1a 1 59 c d6 2b 4 3 19 f 1 5 2 5 3 5b 2 3 1 5a 1 c4 26 37 2",
    "31 10 1c 3 32 f c 4 a7 4 63 2 1f 1 19c0 40 5690 37 146 3 63 1 a 2 80 22 66 1 9f 4 48 4 2f2 2",
    "5057 10 16b 12 40 2 36 8 2d 3 10 2 1 6 18 1f 1 1 2 1 1 9 1 2 2 3 1 1 2 1 95 2 3 5 10 6 1a 6",
    "1a b 7c 3 3 7 112 1 3e 4d 3 d 3 1 77e 1 219 7 22e 1 161 9 179 14 5fa d 968 8 4 11 4ff0 1",
    "5c1d d6 24 3 3 1b4 6 17 1 3 b 1e 2eb 2 15 42 3 1 ba 57 36a 1 19 1 1f 1 19 1 1f 1 19 1 1f 1",
    "19 1 1f 1 19 1 33c 80 1370 2 10e 2c 4 64 c f 2 f 1 f 1 25 15 5 1f 1 3a 6 3d 1 b2 6 9a 3da 2",
    "11 3 d 3 dc 4 c 4 1c 4 38 8 a 6 28 8 1e 2 c 4 2 e 9 27 158 8 e 2 d 3 47 1 1 3 12 1 d 3 c 5",
    "93 1 5c a 1"
  ]

/-- Neutral characters. -/
def neutralSet : CodeSet := .ofGaps neutralText

/-- Characters that are passed over: the gaps and lengths of their ranges. -/
def boundaryText : List String :=
  [
    "0 9 5 e 63 1 2d 1 1760 1 7fc 3 52 5 5 6 de8f 1 bda0 4 14cf 8"
  ]

/-- Characters that are passed over. -/
def boundarySet : CodeSet := .ofGaps boundaryText

/-- Marks that take no room: the gaps and lengths of their ranges. -/
def nonspacingText : List String :=
  [
    "300 70 113 7 107 2d 1 1 1 2 1 2 1 3 46 b 30 15 10 1 65 7 2 6 2 2 1 4 23 1 1e 1b 5b b 3a 9 9",
    "1 18 4 1 9 1 3 1 5 2b 3 3b 9 2a 18 1 20 37 1 1 1 4 8 4 1 3 7 a 2 1d 1 3a 1 4 4 8 1 14 2 1a 1",
    "2 2 39 1 4 2 4 2 2 3 3 1 1e 2 3 1 b 2 39 1 4 5 1 2 4 1 14 2 16 6 1 1 3a 1 2 1 1 4 8 1 5 4 b",
    "2 1e 1 3d 1 c 1 32 1 3 1 37 1 1 3 5 3 1 4 7 2 b 2 1d 1 3a 1 f 2 14 2 1c 2 39 2 4 4 8 1 14 2",
    "1d 1 48 1 7 3 1 1 5a 1 2 7 c 8 62 1 2 9 b 7 49 2 1b 1 1 1 1 1 37 e 1 5 1 2 5 b 1 24 9 1 66 4",
    "1 6 1 2 2 2 19 2 4 3 10 4 d 1 2 2 6 1 f 1 2bf 3 3b2 3 1d 2 1e 2 1e 2 40 2 1 7 8 1 2 b 9 1 2d",
    "3 1 1 75 2 22 1 76 3 4 2 9 1 6 3 db 2 2 1 3a 1 1 7 1 1 1 1 2 8 6 a 2 1 30 41 f 4 30 1 1 4 31",
    "9 c 2 20 4 2 2 1 3 38 1 1 2 3 1 1 3 3a 8 2 2 98 3 1 d 1 7 4 1 6 1 3 2 c6 40 2d0 21 bfe 3 8d",
    "1 60 20 22a 4 6b 2 75d4 4 1 a 20 2 50 2 110 1 3 1 4 1 19 2 5 1 97 2 1a 12 d 1 26 8 19 b 2e 3",
    "30 1 2 4 2 2 27 1 43 6 2 2 2 2 c 1 8 1 2f 1 33 1 1 3 2 2 5 2 1 1 2a 2 8 1 ee 1 2 1 4 1 4f30",
    "1 2e1 10 10 10 3cd 1 e2 1 95 5 686 3 1 2 5 4 28 3 4 1 a5 2 23d 4 41 5 13d 2 1c 7 20 10 46 b",
    "31 4 7b 1 36 f 29 1 2 2 a 3 31 4 2 2 7 1 3d 3 24 5 1 8 3e 1 c 2 34 9 a 4 2 1 5f 3 2 1 1 2 6",
    "1 2 1 9d 1 3 8 15 2 39 2 3 1 25 7 3 5 46 6 d 1 1 1 1 1 e 2 55 8 2 3 1 1 17 1 54 6 1 1 4 2 1",
    "2 ee 4 6 2 1 2 1b 2 55 8 2 1 1 2 6a 1 1 1 2 6 1 1 65 1 1 1 2 4 1 5 103 9 1 2 100 2 1 1 4 1",
    "90 4 2 2 4 1 20 6 2 2 28 6 2 4 8 1 9 6 2 3 2e d 1 2 c6 1 1 3 1 1 c9 7 1 6 54 16 2 7 1 2 1 2",
    "7a 6 3 1 1 2 1 7 1 1 48 2 3 1 1 1 58 1 102 2 b 2 34 5 5 1 1 1 17 1 14e5 1 6 f 2cc8 c 3 3 9c0",
    "5 3b 7 418 1 3f 4 51 1 4cb8 2 1261 2e 2 17 1e0 2 3e 3 11 8 2 7 1e 4 94 3 16 2 7a3 37 4 32 8",
    "1 e 1 16 5 1 f 550 7 1 11 2 7 1 2 1 5 64 1 a0 7 177 1 3d 4 1fc 4 fe 2 f3 1 2 1 7 2 5 1 1da 7",
    "6d 7 c17b5 f0"
  ]

/-- Marks that take no room. -/
def nonspacingSet : CodeSet := .ofGaps nonspacingText

/-- The class of a character. -/
def direction (c : Char) : Direction :=
  let code := c.toNat
  if rightToLeftSet.contains code then .rightToLeft
  else if arabicLetterSet.contains code then .arabicLetter
  else if arabicNumberSet.contains code then .arabicNumber
  else if europeanNumberSet.contains code then .europeanNumber
  else if separatorSet.contains code then .separator
  else if commonSeparatorSet.contains code then .commonSeparator
  else if terminatorSet.contains code then .terminator
  else if neutralSet.contains code then .neutral
  else if boundarySet.contains code then .boundary
  else if nonspacingSet.contains code then .nonspacing
  else .leftToRight

end Swarm.Unicode
