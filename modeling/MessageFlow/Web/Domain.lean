import MessageFlow.Text.Classes
import MessageFlow.Web.Domain.Composed
import MessageFlow.Web.Domain.LabelTable
import MessageFlow.Web.Domain.Punycode
import MessageFlow.Web.Domain.ScriptTable

/-!
Domain names with characters outside ASCII: which labels are admitted, and how they are written in
ASCII.
-/

namespace MessageFlow.Domain

/-- A character that may stand anywhere in a label. -/
def isLabelChar (c : Char) : Bool :=
  labelRuns.any fun (first, last, step) =>
    first ≤ c.toNat && c.toNat ≤ last && (c.toNat - first) % step == 0

def isMark (c : Char) : Bool :=
  markRanges.any fun (first, last, _) => first ≤ c.toNat && c.toNat ≤ last

/-- A mark without room of its own. -/
def isNonspacing (c : Char) : Bool := isMark c && !Text.inRanges spacingMarkRanges c.toNat

/-- The class of the marks that silence the vowel of a letter. -/
def viramaClass : Nat := 9

def followsVirama (before : List Char) : Bool :=
  before.head?.any fun c => markClass c == viramaClass

/-- Whether the nearest character that is no mark lies in one of the ranges. -/
def meets (ranges : List (List (Nat × Nat))) (s : List Char) : Bool :=
  match s.dropWhile isNonspacing with
  | [] => false
  | c :: _ => ranges.any fun range => Text.inRanges range c.toNat

def isArabicDigit (c : Char) : Bool := '\u0660' ≤ c && c ≤ '\u0669'
def isPersianDigit (c : Char) : Bool := '\u06f0' ≤ c && c ≤ '\u06f9'
def isKana (c : Char) : Bool := Text.inRanges kanaRanges c.toNat

/-- Whether a character may stand between those before it, the nearest first, and those after it. -/
def isAdmitted (label before : List Char) (c : Char) (after : List Char) : Bool :=
  if isLabelChar c then true
  else if c = '\u200c' then
    followsVirama before ||
      (meets [joinsAfterRanges, joinsBothRanges] before &&
        meets [joinsBeforeRanges, joinsBothRanges] after)
  else if c = '\u200d' then followsVirama before
  else if c = '\u00b7' then before.head? == some 'l' && after.head? == some 'l'
  else if c = '\u0375' then after.head?.any fun d => Text.inRanges greekRanges d.toNat
  else if c = '\u05f3' ∨ c = '\u05f4' then
    before.head?.any fun d => Text.inRanges hebrewRanges d.toNat
  else if c = '\u30fb' then label.any isKana
  else if isArabicDigit c then !label.any isPersianDigit
  else isPersianDigit c && !label.any isArabicDigit

/-- Whether every character is admitted where it stands. -/
def areAdmitted (label : List Char) : List Char → List Char → Bool
  | _, [] => true
  | before, c :: after =>
    isAdmitted label before c after && areAdmitted label (c :: before) after

/-- The direction in which a character is written. -/
inductive Direction where
  | leftToRight
  | rightToLeft
  | number
  | arabicNumber
  | mark
  | neutral
  deriving DecidableEq, Repr

def Direction.of (c : Char) : Direction :=
  if Text.inRanges rightToLeftRanges c.toNat then .rightToLeft
  else if isArabicDigit c then .arabicNumber
  else if ('0' ≤ c && c ≤ '9') || isPersianDigit c then .number
  else if isNonspacing c then .mark
  else if Text.inRanges neutralRanges c.toNat then .neutral
  else .leftToRight

/-- A label with anything written from right to left begins with it, holds nothing written from left
to right and only one kind of numbers, and ends with a letter or number and its marks. -/
def keepsDirection (label : List Char) : Bool :=
  let directions := label.map Direction.of
  if directions.contains .rightToLeft || directions.contains .arabicNumber then
    directions.head? == some .rightToLeft && !directions.contains .leftToRight &&
      !(directions.contains .number && directions.contains .arabicNumber) &&
      (directions.reverse.dropWhile (· == .mark)).head? != some .neutral
  else true

/-- No hyphen at either end, and none at the third and fourth place together. -/
def keepsHyphens (label : List Char) : Bool :=
  label.head? != some '-' && label.getLast? != some '-' && (label.drop 2).take 2 != ['-', '-']

def isLabel (label : List Char) : Bool :=
  !label.isEmpty && composed label == label && keepsHyphens label && !label.head?.any isMark &&
    areAdmitted label [] label && keepsDirection label

/-- What a label that stands for another one in ASCII begins with. -/
def asciiMark : List Char := ['x', 'n', '-', '-']

def maxLabelLength : Nat := 63

def maxLength : Nat := 253

/-- Whether a lower-case label in ASCII is admitted, by what it stands for if it stands for another
one. -/
def isAsciiLabel (label : List Char) : Bool :=
  if asciiMark.isPrefixOf label then
    let written := label.drop asciiMark.length
    !written.isEmpty && written.getLast? != some '-' && (Punycode.decode? written).any isLabel
  else isLabel label

/-- A label in ASCII. -/
def labelToAscii? (label : List Char) : Option (List Char) :=
  let written := if label.all Text.isAscii then
      if isAsciiLabel label then some label else none
    else if isLabel label then some (asciiMark ++ Punycode.encode label)
    else none
  written.filter fun label => label.length ≤ maxLabelLength

/-- The full stops between labels. -/
def isStop (c : Char) : Bool := c == '.' || c == '\u3002' || c == '\uff0e' || c == '\uff61'

/-- The labels of a name; a stop at its end is followed by an empty one. -/
def labels : List Char → List (List Char)
  | [] => [[]]
  | c :: rest =>
    if isStop c then [] :: labels rest
    else match labels rest with
      | label :: others => (c :: label) :: others
      | [] => [[c]]

/-- A lower-case name in ASCII, if it is admitted. It may end with a stop. -/
def toAscii? (name : List Char) : Option (List Char) :=
  let parts := labels name
  let (parts, stop) := match parts.getLast? with
    | some [] => (parts.dropLast, ['.'])
    | _ => (parts, [])
  if name.length ≤ maxLength + 1 then do
    let written ← parts.mapM labelToAscii?
    let whole := List.intercalate ['.'] written ++ stop
    if whole.length ≤ maxLength + stop.length then some whole else none
  else none

end MessageFlow.Domain
