/-!
Reading bytes as UTF-8. Every longest beginning of a character that is not completed, and every byte
that begins none, is read as the replacement character.
-/

namespace MessageFlow.Text.Utf8

/-- The beginning of a character: the bits read, the number of bytes missing, and the bounds of the
next one. -/
structure Pending where
  bits : Nat
  missing : Nat
  low : Nat
  high : Nat

def replacement : Char := Char.ofNat 0xfffd

/-- What a first byte begins: a whole character, a longer one, or none. -/
inductive Lead where
  | char (c : Char)
  | pending (beginning : Pending)
  | invalid

/-- Overlong forms, surrogates and values beyond the last character are excluded by the bounds of
the second byte. -/
def lead (byte : Nat) : Lead :=
  if byte < 0x80 then .char (Char.ofNat byte)
  else if byte < 0xc2 then .invalid
  else if byte < 0xe0 then .pending ⟨byte - 0xc0, 1, 0x80, 0xbf⟩
  else if byte < 0xf0 then
    .pending ⟨byte - 0xe0, 2, if byte = 0xe0 then 0xa0 else 0x80,
      if byte = 0xed then 0x9f else 0xbf⟩
  else if byte < 0xf5 then
    .pending ⟨byte - 0xf0, 3, if byte = 0xf0 then 0x90 else 0x80,
      if byte = 0xf4 then 0x8f else 0xbf⟩
  else .invalid

/-- Reads the bytes after the beginning of a character. -/
def decodeFrom : Option Pending → List Nat → List Char
  | none, [] => []
  | some _, [] => [replacement]
  | beginning, byte :: rest =>
    let completed := beginning.bind fun begun =>
      if begun.low ≤ byte ∧ byte ≤ begun.high then
        some { begun with
          bits := begun.bits * 64 + byte % 64, missing := begun.missing - 1, low := 0x80,
          high := 0xbf }
      else none
    match completed with
    | some begun =>
      if begun.missing = 0 then Char.ofNat begun.bits :: decodeFrom none rest
      else decodeFrom (some begun) rest
    | none =>
      let lost := if beginning.isSome then [replacement] else []
      match lead byte with
      | .char c => lost ++ c :: decodeFrom none rest
      | .pending begun => lost ++ decodeFrom (some begun) rest
      | .invalid => lost ++ replacement :: decodeFrom none rest

def decode (bytes : List Nat) : List Char := decodeFrom none bytes

/-- The bytes of a character. -/
def encode (c : Char) : List Nat := (String.singleton c).toUTF8.toList.map UInt8.toNat

end MessageFlow.Text.Utf8
