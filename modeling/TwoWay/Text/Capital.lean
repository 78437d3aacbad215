import TwoWay.Text.Lowercase

/-!
# Capitals and titles

A capital may take several characters, as that of a sharp s does. In titles the first letter of
a word has a form of its own if it is a pair of letters written as one. Two texts fold to one if
they differ in the case of their letters only.
-/

namespace TwoWay.Text

/-- Letters whose capital takes several characters. -/
def wideCapitals : List (Nat × List Nat) := [
  (0xdf, [0x53, 0x53]), (0x149, [0x2bc, 0x4e]), (0x1f0, [0x4a, 0x30c]),
  (0x390, [0x399, 0x308, 0x301]), (0x3b0, [0x3a5, 0x308, 0x301]), (0x587, [0x535, 0x552]),
  (0x1e96, [0x48, 0x331]), (0x1e97, [0x54, 0x308]), (0x1e98, [0x57, 0x30a]),
  (0x1e99, [0x59, 0x30a]), (0x1e9a, [0x41, 0x2be]), (0x1f50, [0x3a5, 0x313]),
  (0x1f52, [0x3a5, 0x313, 0x300]), (0x1f54, [0x3a5, 0x313, 0x301]),
  (0x1f56, [0x3a5, 0x313, 0x342]), (0x1f80, [0x1f08, 0x399]), (0x1f81, [0x1f09, 0x399]),
  (0x1f82, [0x1f0a, 0x399]), (0x1f83, [0x1f0b, 0x399]), (0x1f84, [0x1f0c, 0x399]),
  (0x1f85, [0x1f0d, 0x399]), (0x1f86, [0x1f0e, 0x399]), (0x1f87, [0x1f0f, 0x399]),
  (0x1f88, [0x1f08, 0x399]), (0x1f89, [0x1f09, 0x399]), (0x1f8a, [0x1f0a, 0x399]),
  (0x1f8b, [0x1f0b, 0x399]), (0x1f8c, [0x1f0c, 0x399]), (0x1f8d, [0x1f0d, 0x399]),
  (0x1f8e, [0x1f0e, 0x399]), (0x1f8f, [0x1f0f, 0x399]), (0x1f90, [0x1f28, 0x399]),
  (0x1f91, [0x1f29, 0x399]), (0x1f92, [0x1f2a, 0x399]), (0x1f93, [0x1f2b, 0x399]),
  (0x1f94, [0x1f2c, 0x399]), (0x1f95, [0x1f2d, 0x399]), (0x1f96, [0x1f2e, 0x399]),
  (0x1f97, [0x1f2f, 0x399]), (0x1f98, [0x1f28, 0x399]), (0x1f99, [0x1f29, 0x399]),
  (0x1f9a, [0x1f2a, 0x399]), (0x1f9b, [0x1f2b, 0x399]), (0x1f9c, [0x1f2c, 0x399]),
  (0x1f9d, [0x1f2d, 0x399]), (0x1f9e, [0x1f2e, 0x399]), (0x1f9f, [0x1f2f, 0x399]),
  (0x1fa0, [0x1f68, 0x399]), (0x1fa1, [0x1f69, 0x399]), (0x1fa2, [0x1f6a, 0x399]),
  (0x1fa3, [0x1f6b, 0x399]), (0x1fa4, [0x1f6c, 0x399]), (0x1fa5, [0x1f6d, 0x399]),
  (0x1fa6, [0x1f6e, 0x399]), (0x1fa7, [0x1f6f, 0x399]), (0x1fa8, [0x1f68, 0x399]),
  (0x1fa9, [0x1f69, 0x399]), (0x1faa, [0x1f6a, 0x399]), (0x1fab, [0x1f6b, 0x399]),
  (0x1fac, [0x1f6c, 0x399]), (0x1fad, [0x1f6d, 0x399]), (0x1fae, [0x1f6e, 0x399]),
  (0x1faf, [0x1f6f, 0x399]), (0x1fb2, [0x1fba, 0x399]), (0x1fb3, [0x391, 0x399]),
  (0x1fb4, [0x386, 0x399]), (0x1fb6, [0x391, 0x342]), (0x1fb7, [0x391, 0x342, 0x399]),
  (0x1fbc, [0x391, 0x399]), (0x1fc2, [0x1fca, 0x399]), (0x1fc3, [0x397, 0x399]),
  (0x1fc4, [0x389, 0x399]), (0x1fc6, [0x397, 0x342]), (0x1fc7, [0x397, 0x342, 0x399]),
  (0x1fcc, [0x397, 0x399]), (0x1fd2, [0x399, 0x308, 0x300]), (0x1fd3, [0x399, 0x308, 0x301]),
  (0x1fd6, [0x399, 0x342]), (0x1fd7, [0x399, 0x308, 0x342]), (0x1fe2, [0x3a5, 0x308, 0x300]),
  (0x1fe3, [0x3a5, 0x308, 0x301]), (0x1fe4, [0x3a1, 0x313]), (0x1fe6, [0x3a5, 0x342]),
  (0x1fe7, [0x3a5, 0x308, 0x342]), (0x1ff2, [0x1ffa, 0x399]), (0x1ff3, [0x3a9, 0x399]),
  (0x1ff4, [0x38f, 0x399]), (0x1ff6, [0x3a9, 0x342]), (0x1ff7, [0x3a9, 0x342, 0x399]),
  (0x1ffc, [0x3a9, 0x399]), (0xfb00, [0x46, 0x46]), (0xfb01, [0x46, 0x49]), (0xfb02, [0x46, 0x4c]),
  (0xfb03, [0x46, 0x46, 0x49]), (0xfb04, [0x46, 0x46, 0x4c]), (0xfb05, [0x53, 0x54]),
  (0xfb06, [0x53, 0x54]), (0xfb13, [0x544, 0x546]), (0xfb14, [0x544, 0x535]),
  (0xfb15, [0x544, 0x53b]), (0xfb16, [0x54e, 0x546]), (0xfb17, [0x544, 0x53d])]

/-- Letters whose form at the start of a title is not their capital. -/
def titleForms : List (Nat × List Nat) := [
  (0xdf, [0x53, 0x73]), (0x1c4, [0x1c5]), (0x1c5, [0x1c5]), (0x1c6, [0x1c5]), (0x1c7, [0x1c8]),
  (0x1c8, [0x1c8]), (0x1c9, [0x1c8]), (0x1ca, [0x1cb]), (0x1cb, [0x1cb]), (0x1cc, [0x1cb]),
  (0x1f1, [0x1f2]), (0x1f2, [0x1f2]), (0x1f3, [0x1f2]), (0x587, [0x535, 0x582]),
  (0x1f80, [0x1f88]), (0x1f81, [0x1f89]), (0x1f82, [0x1f8a]), (0x1f83, [0x1f8b]),
  (0x1f84, [0x1f8c]), (0x1f85, [0x1f8d]), (0x1f86, [0x1f8e]), (0x1f87, [0x1f8f]),
  (0x1f88, [0x1f88]), (0x1f89, [0x1f89]), (0x1f8a, [0x1f8a]), (0x1f8b, [0x1f8b]),
  (0x1f8c, [0x1f8c]), (0x1f8d, [0x1f8d]), (0x1f8e, [0x1f8e]), (0x1f8f, [0x1f8f]),
  (0x1f90, [0x1f98]), (0x1f91, [0x1f99]), (0x1f92, [0x1f9a]), (0x1f93, [0x1f9b]),
  (0x1f94, [0x1f9c]), (0x1f95, [0x1f9d]), (0x1f96, [0x1f9e]), (0x1f97, [0x1f9f]),
  (0x1f98, [0x1f98]), (0x1f99, [0x1f99]), (0x1f9a, [0x1f9a]), (0x1f9b, [0x1f9b]),
  (0x1f9c, [0x1f9c]), (0x1f9d, [0x1f9d]), (0x1f9e, [0x1f9e]), (0x1f9f, [0x1f9f]),
  (0x1fa0, [0x1fa8]), (0x1fa1, [0x1fa9]), (0x1fa2, [0x1faa]), (0x1fa3, [0x1fab]),
  (0x1fa4, [0x1fac]), (0x1fa5, [0x1fad]), (0x1fa6, [0x1fae]), (0x1fa7, [0x1faf]),
  (0x1fa8, [0x1fa8]), (0x1fa9, [0x1fa9]), (0x1faa, [0x1faa]), (0x1fab, [0x1fab]),
  (0x1fac, [0x1fac]), (0x1fad, [0x1fad]), (0x1fae, [0x1fae]), (0x1faf, [0x1faf]),
  (0x1fb2, [0x1fba, 0x345]), (0x1fb3, [0x1fbc]), (0x1fb4, [0x386, 0x345]),
  (0x1fb7, [0x391, 0x342, 0x345]), (0x1fbc, [0x1fbc]), (0x1fc2, [0x1fca, 0x345]),
  (0x1fc3, [0x1fcc]), (0x1fc4, [0x389, 0x345]), (0x1fc7, [0x397, 0x342, 0x345]),
  (0x1fcc, [0x1fcc]), (0x1ff2, [0x1ffa, 0x345]), (0x1ff3, [0x1ffc]), (0x1ff4, [0x38f, 0x345]),
  (0x1ff7, [0x3a9, 0x342, 0x345]), (0x1ffc, [0x1ffc]), (0xfb00, [0x46, 0x66]),
  (0xfb01, [0x46, 0x69]), (0xfb02, [0x46, 0x6c]), (0xfb03, [0x46, 0x66, 0x69]),
  (0xfb04, [0x46, 0x66, 0x6c]), (0xfb05, [0x53, 0x74]), (0xfb06, [0x53, 0x74]),
  (0xfb13, [0x544, 0x576]), (0xfb14, [0x544, 0x565]), (0xfb15, [0x544, 0x56b]),
  (0xfb16, [0x54e, 0x576]), (0xfb17, [0x544, 0x56d])]

/-- The Georgian letters that stay small in titles. -/
def staysSmall (code : Nat) : Bool := 0x10d0 ≤ code && code ≤ 0x10ff

/-- Raised and lowered letters, which have a case but do not end a word. -/
def raisedRanges : List (Nat × Nat) := [
  (0x2b0, 0x2b8), (0x2c0, 0x2c1), (0x2e0, 0x2e4), (0x345, 0x345), (0x37a, 0x37a), (0x1d2c, 0x1d6a),
  (0x1d78, 0x1d78), (0x1d9b, 0x1dbf), (0x2071, 0x2071), (0x207f, 0x207f), (0x2090, 0x209c),
  (0x2c7c, 0x2c7d), (0xa69c, 0xa69d), (0xa770, 0xa770), (0xa7f8, 0xa7f9), (0xab5c, 0xab5f),
  (0x10780, 0x10780), (0x10783, 0x10785), (0x10787, 0x107b0), (0x107b2, 0x107ba)]

/-- Whether a character has a case. -/
def isCased (c : Char) : Bool :=
  inRanges casedRanges c.toNat || inRanges raisedRanges c.toNat

/-- The form of a code point that a table gives, or else another. -/
def listed (table : List (Nat × List Nat)) (code : Nat) (other : List Nat) : List Nat :=
  match table.find? (·.1 = code) with
  | some row => row.2
  | none => other

/-- The capital of a character. -/
def capitalCodes (code : Nat) : List Nat := listed wideCapitals code [capitalCode code]

/-- The form of a character at the start of a title. -/
def titleCodes (code : Nat) : List Nat :=
  if staysSmall code then [code] else listed titleForms code (capitalCodes code)

def ofCodes (codes : List Nat) : List Char := codes.map Char.ofNat

/-- A text in capitals. -/
def upper (s : String) : String :=
  String.ofList (s.toList.flatMap fun c => ofCodes (capitalCodes c.toNat))

/-- A text with a capital at its start and small letters behind it. -/
def capitalized (s : String) : String :=
  match s.toList with
  | [] => ""
  | c :: rest => String.ofList (ofCodes (titleCodes c.toNat) ++ lowerChars [c] rest)

/-- The characters behind others, with a capital at the start of each word. -/
def titledChars (before : List Char) : List Char → List Char
  | [] => []
  | c :: rest =>
    let inWord := match before with
      | b :: _ => isCased b
      | [] => false
    (if inWord then lowerAt before c rest else ofCodes (titleCodes c.toNat)) ++
      titledChars (c :: before) rest

/-- A text with a capital at the start of each word. -/
def titled (s : String) : String := String.ofList (titledChars [] s.toList)

/-- The characters behind others, each letter in its other case. A letter that has its form for
titles stays. -/
def swappedChars (before : List Char) : List Char → List Char
  | [] => []
  | c :: rest =>
    (if listed titleForms c.toNat [] = [c.toNat] then [c]
      else if smallCode c.toNat != c.toNat then lowerAt before c rest
      else ofCodes (capitalCodes c.toNat)) ++ swappedChars (c :: before) rest

/-- A text with each letter in its other case. -/
def caseSwapped (s : String) : String := String.ofList (swappedChars [] s.toList)

/-- What a character folds to: the small letters of its capital. The Cherokee letters fold to
capitals, and a dotless i to itself. -/
def foldedCodes (code : Nat) : List Nat :=
  if code = 0x131 then [code]
  else if code = 0x1e9e then [0x73, 0x73]
  else (capitalCodes code).flatMap fun capital =>
    if 0x13a0 ≤ capital && capital ≤ 0x13f5 then [capital]
    else if capital = 0x130 then [0x69, 0x307]
    else [smallCode capital]

/-- A text without the case of its letters. -/
def folded (s : String) : String :=
  String.ofList (s.toList.flatMap fun c => ofCodes (foldedCodes c.toNat))

end TwoWay.Text
