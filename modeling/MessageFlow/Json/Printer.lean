import MessageFlow.Json.Basic
import MessageFlow.Number.Shortest
import MessageFlow.Text.Quoted

/-!
Texts of values: JSON text without spaces, in which characters outside ASCII stand for themselves,
and the literal text, which names the custom field that a condition looks up.
-/

namespace MessageFlow.Json

def printChar (c : Char) : List Char :=
  if c = Text.doubleQuote ∨ c = '\\' then ['\\', c]
  else if c = '\n' then ['\\', 'n']
  else if c = '\r' then ['\\', 'r']
  else if c = '\t' then ['\\', 't']
  else if c.toNat < 0x20 then '\\' :: 'u' :: Text.hexadecimal 4 c.toNat
  else [c]

def printText (s : String) : String :=
  String.ofList (Text.doubleQuote :: s.toList.flatMap printChar ++ [Text.doubleQuote])

mutual

def print : Json → String
  | .null => "null"
  | .bool value => if value then "true" else "false"
  | .int value => toString value
  | .real value => value.render
  | .text value => printText value
  | .list items => "[" ++ ",".intercalate (printItems items) ++ "]"
  | .record fields => "\x7b" ++ ",".intercalate (printFields fields) ++ "\x7d"
termination_by structural value => value

def printItems : List Json → List String
  | [] => []
  | item :: items => print item :: printItems items
termination_by structural items => items

def printFields : Row → List String
  | [] => []
  | (key, value) :: fields => (printText key ++ ":" ++ print value) :: printFields fields
termination_by structural fields => fields

end

mutual

/-- The value with its texts quoted. -/
def literal : Json → String
  | .null => "None"
  | .bool value => if value then "True" else "False"
  | .int value => toString value
  | .real value => value.render
  | .text value => Text.quoted value
  | .list items => "[" ++ ", ".intercalate (literalItems items) ++ "]"
  | .record fields => "\x7b" ++ ", ".intercalate (literalFields fields) ++ "\x7d"
termination_by structural value => value

def literalItems : List Json → List String
  | [] => []
  | item :: items => literal item :: literalItems items
termination_by structural items => items

def literalFields : Row → List String
  | [] => []
  | (key, value) :: fields => (Text.quoted key ++ ": " ++ literal value) :: literalFields fields
termination_by structural fields => fields

end

/-- The text of a value: a text as it is, anything else as its literal. -/
def display : Json → String
  | .text value => value
  | value => literal value

end MessageFlow.Json
