import Swarm.Unicode.CodeSet

/-!
# Combining marks

A combining mark belongs to the character before it, so no label of a domain name starts with
one.

## Main definitions

* `Unicode.isMark`: the character is a combining mark
-/

namespace Swarm.Unicode

/-- The combining marks: the gaps and lengths of their ranges. -/
def markText : List String :=
  [
    "300 70 113 7 107 2d 1 1 1 2 1 2 1 3 46 b 30 15 10 1 65 7 2 6 2 2 1 4 23 1 1e 1b 5b b 3a 9 9",
    "1 18 4 1 9 1 3 1 5 2b 3 3b 9 2a 18 1 21 36 3 1 12 1 7 a 2 1d 3 38 1 1 7 2 2 2 3 9 1 a 2 1a 1",
    "2 3 38 1 1 5 4 2 2 3 3 1 1e 2 3 1 b 3 38 1 1 8 1 3 1 3 14 2 16 6 1 3 38 1 1 7 2 2 2 3 5 5 a",
    "2 1e 1 3b 5 3 3 1 4 9 1 28 5 37 1 1 7 1 3 1 4 7 2 b 2 1d 3 38 1 1 7 1 3 1 4 7 2 b 2 f 1 c 4",
    "37 2 1 7 1 3 1 4 9 1 a 2 1d 3 46 1 4 6 1 1 1 8 12 2 3d 1 2 7 c 8 62 1 2 9 b 7 49 2 1b 1 1 1",
    "1 1 4 2 31 14 1 2 5 b 1 24 9 1 64 14 17 4 4 3 1 3 2 7 3 4 d c 1 1 a 4 2bf 3 3b2 4 1c 3 1d 2",
    "1e 2 40 20 9 1 2d 3 1 1 75 2 22 1 76 c 4 c db 5 39 a 1 1d 2 1 30 41 f 5 2f 11 26 9 c 3 1e d",
    "38 e 30 14 98 3 1 15 4 1 6 1 2 3 c6 40 2d0 21 bfe 3 8d 1 60 20 22a 6 69 2 75d4 4 1 a 20 2 50",
    "2 110 1 3 1 4 1 17 5 4 1 53 2 32 12 1a 12 d 1 26 8 19 d 2c 4 2f e 24 1 43 e c 1 8 2 2d 3 32",
    "1 1 3 2 2 5 2 1 1 29 5 5 2 ec 8 1 2 4f30 1 2e1 10 10 10 3cd 1 e2 1 95 5 686 3 1 2 5 4 28 3 4",
    "1 a5 2 23d 4 41 5 13d 2 1c 7 20 10 46 b 31 4 7a 3 35 f 29 1 2 2 a 4 2d b 7 1 3d 3 24 e 10 2",
    "2c 1 c 3 30 e 8 4 1 2 5c c 6 1 2 1 9d c 15 4 37 2 1 7 2 2 2 3 9 1 a 2 2 7 3 5 43 9 1 1 2 1 1",
    "4 1 5 1 1 e 2 52 12 17 1 51 14 eb 7 2 9 1b 2 52 11 6a d 65 f 100 f f5 6 1 2 2 4 1 1 1 2 8d 7",
    "2 7 3 1 1c a 28 7 1 4 8 1 9 b 2e 10 c6 8 c7 8 1 8 52 16 1 e 7a 6 3 1 1 2 1 7 1 1 42 5 1 2 1",
    "5 58 1 102 4 9 2 1 1 30 7 3 5 17 1 14e5 1 6 f 2cc8 12 9c0 5 3b 7 418 1 1 37 7 4 51 1 b 2",
    "4cab 2 1261 2e 2 17 1e0 2 3c 5 3 6 8 8 2 7 1e 4 94 3 b 3 8 2 2 1 7a0 37 4 32 8 1 e 1 16 5 1",
    "f 550 7 1 11 2 7 1 2 1 5 64 1 a0 7 177 1 3d 4 1fc 4 fe 2 f3 1 2 1 7 2 5 1 1da 7 6d 7 c17b5",
    "f0"
  ]

/-- The combining marks. -/
def marks : CodeSet := .ofGaps markText

/-- The character is a combining mark. -/
def isMark (c : Char) : Bool :=
  marks.contains c.toNat

end Swarm.Unicode
