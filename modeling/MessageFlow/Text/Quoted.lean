import MessageFlow.Text.Printable

/-!
Quoted text: single quotes unless the text holds a single quote and no double one, a backslash
before the quote in use and before a backslash, and hexadecimal escapes for what is not printable.
-/

namespace MessageFlow.Text

/-- A number in lower-case hexadecimal, padded with zeros on the left. -/
def hexadecimal (width n : Nat) : List Char :=
  let digits := Nat.toDigits 16 n
  List.replicate (width - digits.length) '0' ++ digits

def singleQuote : Char := Char.ofNat 39
def doubleQuote : Char := Char.ofNat 34

/-- The shortest escape for the code point of a character. -/
def codeEscape (c : Char) : List Char :=
  if c.toNat < 0x100 then '\\' :: 'x' :: hexadecimal 2 c.toNat
  else if c.toNat < 0x10000 then '\\' :: 'u' :: hexadecimal 4 c.toNat
  else '\\' :: 'U' :: hexadecimal 8 c.toNat

def escapeChar (quote c : Char) : List Char :=
  if c = quote ∨ c = '\\' then ['\\', c]
  else if c = '\n' then ['\\', 'n']
  else if c = '\r' then ['\\', 'r']
  else if c = '\t' then ['\\', 't']
  else if isPrintable c then [c]
  else codeEscape c

def quoteFor (s : List Char) : Char :=
  if s.contains singleQuote && !s.contains doubleQuote then doubleQuote else singleQuote

/-- The characters of the text as they stand between the quotes. -/
def escaped (s : List Char) : List Char := s.flatMap (escapeChar (quoteFor s))

def quoted (s : String) : String :=
  let quote := quoteFor s.toList
  String.ofList (quote :: escaped s.toList ++ [quote])

end MessageFlow.Text
