import MessageFlow.Text.Lower
import MessageFlow.Web.Domain
import MessageFlow.Web.Percent

/-!
The hosts of addresses: numeric addresses in two forms, and names. A name is lowered and, when it
holds characters outside ASCII, written in ASCII.
-/

namespace MessageFlow.Host

/-- The parts between the separators. -/
def splitAt (isSeparator : Char → Bool) : List Char → List (List Char)
  | [] => [[]]
  | c :: rest =>
    if isSeparator c then [] :: splitAt isSeparator rest
    else match splitAt isSeparator rest with
      | part :: parts => (c :: part) :: parts
      | [] => [[c]]

theorem splitAt_ne_nil (isSeparator : Char → Bool) (s : List Char) :
    splitAt isSeparator s ≠ [] := by
  cases s with
  | nil => simp [splitAt]
  | cons c rest =>
    unfold splitAt
    split
    · simp
    · split <;> simp

/-- Whether the text consists of four runs of digits with any one character between them. A long run
can serve as two with a digit between them. -/
def resemblesOctets (s : List Char) : Bool :=
  let runs := splitAt (fun c => !Json.isAsciiDigit c) s
  let spare := runs.foldl (fun spare run => spare + (run.length - 1) / 2) 0
  !runs.any List.isEmpty && runs.length ≤ 4 && 4 ≤ runs.length + spare

/-- A number up to 255 without superfluous zeros. -/
def isOctet (s : List Char) : Bool :=
  !s.isEmpty && s.all Json.isAsciiDigit && s.length ≤ 3 && (s.length = 1 || s.head? != some '0') &&
    Json.naturalOf s ≤ 255

/-- An address of four octets. -/
def isOctets (s : List Char) : Bool :=
  let parts := splitAt (· == '.') s
  parts.length == 4 && parts.all isOctet

/-- A group of up to four hexadecimal digits. -/
def isGroup (s : List Char) : Bool :=
  !s.isEmpty && s.length ≤ 4 && s.all fun c => (Json.hexValue? c).isSome

/-- The number of groups that the parts stand for; the last part may be an address of four octets,
which stands for two. -/
def groupCount? : List (List Char) → Option Nat
  | [] => some 0
  | [part] => if isGroup part then some 1 else if isOctets part then some 2 else none
  | part :: parts => if isGroup part then (groupCount? parts).map (· + 1) else none

def groupTotal : Nat := 8

/-- Whether the parts around an empty one stand for fewer groups than an address has. -/
def abbreviates (front back : List (List Char)) : Bool :=
  match front.all isGroup, groupCount? back with
  | true, some count => front.length + count < groupTotal
  | _, _ => false

/-- An address of eight groups; one row of groups may be left out where two colons meet. -/
def isGroups (s : List Char) : Bool :=
  let parts := splitAt (· == ':') s
  match parts.takeWhile (!·.isEmpty), parts.dropWhile (!·.isEmpty) with
  | _, [] => groupCount? parts == some groupTotal
  | [], [] :: [] :: [[]] => true
  | [], [] :: [] :: back => !back.isEmpty && abbreviates [] back
  | front, [] :: [[]] => !front.isEmpty && abbreviates front []
  | front, [] :: back => !front.isEmpty && !back.isEmpty && abbreviates front back
  | _, _ => false

/-- An address of groups, with the name of a zone after a percent sign. -/
def isZonedGroups (s : List Char) : Bool :=
  match splitAt (· == '%') s with
  | [groups] => isGroups groups
  | [groups, zone] => isGroups groups && !zone.isEmpty
  | _ => false

/-- Characters that a name keeps as they are. -/
def isSafe (c : Char) : Bool := "!$&'()*+,;=\"`\x7b\x7d%|\\".toList.contains c

inductive HostError where
  | octets
  | groups
  | name
  deriving DecidableEq, Repr

/-- The host as it is kept; brackets around groups are dropped. -/
def read (host : List Char) : Except HostError (List Char) :=
  if host.isEmpty then .ok []
  else if resemblesOctets host then if isOctets host then .ok host else .error .octets
  else if host.head? = some '[' ∧ host.getLast? = some ']' then
    let inner := (host.drop 1).dropLast
    if isZonedGroups inner then .ok inner else .error .groups
  else if host.all Text.isAscii then .ok (Percent.escape isSafe (host.map Char.toLower))
  else match Domain.toAscii? (Text.lower (String.ofList host)).toList with
    | some name => .ok name
    | none => .error .name

end MessageFlow.Host
