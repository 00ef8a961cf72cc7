import Swarm.Unicode.CodeSet

/-!
# Joining scripts

In a cursive script a letter may join the letter after it, the letter before it, or both, and
marks between two letters do not keep them apart.

## Main definitions

* `Unicode.joinsNext`, `Unicode.joinsPrevious`: the character joins a neighbour
* `Unicode.isTransparent`: the character does not keep its neighbours apart
-/

namespace Swarm.Unicode

/-- The characters that join the one after them. -/
def joinsNextText : List String :=
  [
    "620 1 5 1 1 1 1 5 4 d 1 7 1 2 23 2 8 10 12 26 1 2 9 1 1 1 1 2 28 3 2 1 12 3 5 4 1 9 1 1 1 1",
    "1 2 1f b 3 f 2 4 1 1 2 3 2 6 4a 21 56 5 2 1 1 a 1 1 a 1 1 4 2 1 1d 1 2 5 1 1 10 a 5 2 2 6 1",
    "f f3e 1 18 59 e 22 1 1 8f95 33 624d 5 8 1 5 a 1 3 a 4 91 1 1 1 3 3 1 2 1 1 2 1 1c 2 151 22 1",
    "1 19f 2 1 2 11 16 41 3 1 11 c 3 1c 4 2 c 2e 1 1 2 4 1 2 2 1 2 1 1 2 1 5 2 d934 44"
  ]

/-- The characters that join the one before them. -/
def joinsPreviousText : List String :=
  [
    "620 1 1 1e 1 a 23 2 1 3 1 5f 1 1 18 2 a 3 2 1 10 1 1 1e 1d 33 4a 21 55 19 7 1 1 4 1 4 5 13 3",
    "1 2 7 10 d 1 1b f3e 1 18 59 e 22 1 1 8f95 32 624e 6 1 1 1 2 3 9 1 a 2 1 6 5 90 12 17 6 152",
    "23 19e 3 1 2 68 15 c 4 1b 12 2e 1 1 5 1 8 1 4 4 2 d935 44"
  ]

/-- The characters that do not keep their neighbours apart. -/
def transparentText : List String :=
  [
    "ad 1 252 70 113 7 107 2d 1 1 1 2 1 2 1 3 46 b 1 1 2e 15 10 1 65 7 2 6 2 2 1 4 21 1 1 1 1e 1b",
    "5b b 3a 9 9 1 18 4 1 9 1 3 1 5 2b 3 3b 9 2a 18 1 20 37 1 1 1 4 8 4 1 3 7 a 2 1d 1 3a 1 4 4 8",
    "1 14 2 1a 1 2 2 39 1 4 2 4 2 2 3 3 1 1e 2 3 1 b 2 39 1 4 5 1 2 4 1 14 2 16 6 1 1 3a 1 2 1 1",
    "4 8 1 5 4 b 2 1e 1 3d 1 c 1 32 1 3 1 37 1 1 3 5 3 1 4 7 2 b 2 1d 1 3a 1 2 1 6 1 5 2 14 2 1c",
    "2 39 2 4 4 8 1 14 2 1d 1 48 1 7 3 1 1 5a 1 2 7 c 8 62 1 2 9 b 7 49 2 1b 1 1 1 1 1 37 e 1 5 1",
    "2 5 b 1 24 9 1 66 4 1 6 1 2 2 2 19 2 4 3 10 4 d 1 2 2 6 1 f 1 2bf 3 3b2 3 1d 2 1e 2 1e 2 40",
    "2 1 7 8 1 2 b 9 1 2d 3 1 1 75 2 22 1 76 3 4 2 9 1 6 3 db 2 2 1 3a 1 1 7 1 1 1 1 2 8 6 a 2 1",
    "30 41 f 4 30 1 1 4 31 9 c 2 20 4 2 2 1 3 38 1 1 2 3 1 1 3 3a 8 2 2 98 3 1 d 1 7 4 1 6 1 3 2",
    "c6 40 20b 1 2 2 1a 5 31 5 5 6 60 21 bfe 3 8d 1 60 20 22a 4 6b 2 75d4 4 1 a 20 2 50 2 110 1 3",
    "1 4 1 19 2 5 1 97 2 1a 12 d 1 26 8 19 b 2e 3 30 1 2 4 2 2 27 1 43 6 2 2 2 2 c 1 8 1 2f 1 33",
    "1 1 3 2 2 5 2 1 1 2a 2 8 1 ee 1 2 1 4 1 4f30 1 2e1 10 10 10 cf 1 f9 3 201 1 e2 1 95 5 686 3",
    "1 2 5 4 28 3 4 1 a5 2 23d 4 41 5 13d 2 1c 7 20 10 46 b 31 4 7b 1 36 f 29 1 2 2 a 3 31 4 2 2",
    "7 1 3d 3 24 5 1 8 3e 1 c 2 34 9 a 4 2 1 5f 3 2 1 1 2 6 1 2 1 9d 1 3 8 15 2 39 2 3 1 25 7 3 5",
    "46 6 d 1 1 1 1 1 e 2 55 8 2 3 1 1 17 1 54 6 1 1 4 2 1 2 ee 4 6 2 1 2 1b 2 55 8 2 1 1 2 6a 1",
    "1 1 2 6 1 1 65 1 1 1 2 4 1 5 103 9 1 2 100 2 1 1 4 1 90 4 2 2 4 1 20 a 28 6 2 4 8 1 9 6 2 3",
    "2e d 1 2 c6 1 1 3 1 1 c9 7 1 6 1 1 52 16 2 7 1 2 1 2 7a 6 3 1 1 2 1 7 1 1 48 2 3 1 1 1 58 1",
    "102 2 b 2 34 5 5 1 1 1 17 1 14d5 11 6 f 2cc8 c 3 3 9c0 5 3b 7 418 1 3f 4 51 1 4cb8 2 1 4",
    "125c 2e 2 17 1e0 2 3e 3 9 10 2 7 1e 4 94 3 16 2 7a3 37 4 32 8 1 e 1 16 5 1 f 550 7 1 11 2 7",
    "1 2 1 5 64 1 a0 7 177 1 3d 4 1fc 4 fe 2 f3 1 2 1 7 2 5 1 1da 7 6d 8 c16b5 1 1e 60 80 f0"
  ]

/-- The characters that join the one after them. -/
def joinsNextSet : CodeSet := .ofGaps joinsNextText

/-- The characters that join the one before them. -/
def joinsPreviousSet : CodeSet := .ofGaps joinsPreviousText

/-- The characters that do not keep their neighbours apart. -/
def transparentSet : CodeSet := .ofGaps transparentText

/-- The character joins the one after it. -/
def joinsNext (c : Char) : Bool :=
  joinsNextSet.contains c.toNat

/-- The character joins the one before it. -/
def joinsPrevious (c : Char) : Bool :=
  joinsPreviousSet.contains c.toNat

/-- The character does not keep its neighbours apart. -/
def isTransparent (c : Char) : Bool :=
  transparentSet.contains c.toNat

end Swarm.Unicode
