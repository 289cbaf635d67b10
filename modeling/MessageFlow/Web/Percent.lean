import MessageFlow.Json.Reader
import MessageFlow.Text.Utf8

/-!
Percent escapes: a byte as a percent sign and two hexadecimal digits.
-/

namespace MessageFlow.Percent

def escapeByte (byte : Nat) : List Char :=
  '%' :: ((Nat.toDigits 16 (0x100 + byte)).drop 1).map Char.toUpper

/-- Characters that no part of an address escapes. -/
def isUnreserved (c : Char) : Bool :=
  c.isAlphanum || c == '-' || c == '.' || c == '_' || c == '~'

def escapeChar (isSafe : Char → Bool) (c : Char) : List Char :=
  if isUnreserved c || isSafe c then [c] else (Text.Utf8.encode c).flatMap escapeByte

/-- Escapes the characters that are not safe; an escape that is there already stays. -/
def escape (isSafe : Char → Bool) : List Char → List Char
  | '%' :: a :: b :: rest =>
    if (Json.hexValue? a).isSome && (Json.hexValue? b).isSome then
      '%' :: a :: b :: escape isSafe rest
    else escapeChar isSafe '%' ++ escape isSafe (a :: b :: rest)
  | c :: rest => escapeChar isSafe c ++ escape isSafe rest
  | [] => []

/-- A text of safe characters other than the percent sign stays as it is. -/
theorem escape_eq_self {isSafe : Char → Bool} {s : List Char}
    (safe : ∀ c ∈ s, c ≠ '%' ∧ (isUnreserved c || isSafe c) = true) : escape isSafe s = s := by
  induction s with
  | nil => rfl
  | cons c rest ih =>
    have plain := safe c List.mem_cons_self
    have others := ih fun d member => safe d (List.mem_cons_of_mem c member)
    rw [escape]
    · simp [escapeChar, plain.2, others]
    · intro a b tail same
      exact absurd same plain.1

/-- The bytes of the text, with every escape replaced by the byte it stands for. -/
def bytes : List Char → List Nat
  | '%' :: a :: b :: rest =>
    match Json.hexValue? a, Json.hexValue? b with
    | some high, some low => (high * 16 + low) :: bytes rest
    | _, _ => Text.Utf8.encode '%' ++ bytes (a :: b :: rest)
  | c :: rest => Text.Utf8.encode c ++ bytes rest
  | [] => []

/-- The text that the escapes stand for. -/
def unescape (s : List Char) : List Char := Text.Utf8.decode (bytes s)

end MessageFlow.Percent
