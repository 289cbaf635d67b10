/-!
Classes of characters. The blanks are the white space of Unicode and the four information
separators: trimming and splitting into words use this one class. The decimal digits of each script
are ten consecutive code points.
-/

namespace MessageFlow.Text

/-- Whether a code point lies in one of the closed ranges. -/
def inRanges (ranges : List (Nat × Nat)) (point : Nat) : Bool :=
  ranges.any fun (first, last) => first ≤ point && point ≤ last

def isAscii (c : Char) : Bool := c.toNat < 0x80

/-- A control character of ASCII. -/
def isControl (c : Char) : Bool := c.toNat < 0x20 || c.toNat == 0x7f

/-- The first stretch of characters outside ASCII, with its position. -/
def foreignStretch (s : List Char) : Nat × List Char :=
  ((s.takeWhile isAscii).length, (s.dropWhile isAscii).takeWhile fun c => !isAscii c)

theorem foreignStretch_eq_nil_iff {s : List Char} :
    (foreignStretch s).2 = [] ↔ ∀ c ∈ s, isAscii c = true := by
  induction s with
  | nil => simp [foreignStretch]
  | cons c rest ih =>
    by_cases plain : isAscii c = true
    · simpa [foreignStretch, plain] using ih
    · simp [foreignStretch, plain]

def blankRanges : List (Nat × Nat) :=
  [(0x9, 0xd), (0x1c, 0x20), (0x85, 0x85), (0xa0, 0xa0), (0x1680, 0x1680), (0x2000, 0x200a),
   (0x2028, 0x2029), (0x202f, 0x202f), (0x205f, 0x205f), (0x3000, 0x3000)]

def isBlank (c : Char) : Bool := inRanges blankRanges c.toNat

def dropBlanks (s : List Char) : List Char := s.dropWhile isBlank

/-- The text without its leading and trailing blanks. -/
def trim (s : String) : String :=
  String.ofList (dropBlanks (dropBlanks s.toList).reverse).reverse

/-- Splits at blanks; `word` holds the characters of the word under way, last first. -/
def splitWords : List Char → List Char → List String
  | word, [] => if word.isEmpty then [] else [String.ofList word.reverse]
  | word, c :: rest =>
    if isBlank c then
      if word.isEmpty then splitWords [] rest
      else String.ofList word.reverse :: splitWords [] rest
    else splitWords (c :: word) rest

/-- The maximal stretches without a blank. -/
def words (s : String) : List String := splitWords [] s.toList

/-- The code points of the digit zero. -/
def zeroDigits : List Nat :=
  [0x30, 0x660, 0x6f0, 0x7c0, 0x966, 0x9e6, 0xa66, 0xae6, 0xb66, 0xbe6,
   0xc66, 0xce6, 0xd66, 0xde6, 0xe50, 0xed0, 0xf20, 0x1040, 0x1090, 0x17e0,
   0x1810, 0x1946, 0x19d0, 0x1a80, 0x1a90, 0x1b50, 0x1bb0, 0x1c40, 0x1c50, 0xa620,
   0xa8d0, 0xa900, 0xa9d0, 0xa9f0, 0xaa50, 0xabf0, 0xff10, 0x104a0, 0x10d30, 0x11066,
   0x110f0, 0x11136, 0x111d0, 0x112f0, 0x11450, 0x114d0, 0x11650, 0x116c0, 0x11730, 0x118e0,
   0x11950, 0x11c50, 0x11d50, 0x11da0, 0x16a60, 0x16ac0, 0x16b50, 0x1d7ce, 0x1d7d8, 0x1d7e2,
   0x1d7ec, 0x1d7f6, 0x1e140, 0x1e2f0, 0x1e950, 0x1fbf0]

/-- The value of a decimal digit. -/
def digitValue? (c : Char) : Option Nat :=
  (zeroDigits.find? fun first => first ≤ c.toNat && c.toNat < first + 10).map (c.toNat - ·)

def isDigit (c : Char) : Bool := (digitValue? c).isSome

/-- Whether the characters are digits with single underscores between them. -/
def isGrouped : List Char → Bool
  | [] => false
  | [c] => isDigit c
  | c :: d :: rest => isDigit c && (if d = '_' then isGrouped rest else isGrouped (d :: rest))

/-- A numeral of more digits is refused. -/
def maxNumeralDigits : Nat := 4300

/-- The number that the digits among the characters make up. -/
def digitsValue (s : List Char) : Nat := s.foldl (fun n c => (digitValue? c).elim n (n * 10 + ·)) 0

end MessageFlow.Text
