import MessageFlow.Document.Field
import MessageFlow.Json.Printer
import MessageFlow.Web.Address

/-!
Issues in words: a refused document is reported as a text with one paragraph for each issue.
-/

namespace MessageFlow

/-- The words in quotes, as one of them may be chosen. -/
def quotedChoice (words : List String) : String :=
  match (words.map Text.quoted).reverse with
  | [] => ""
  | [word] => word
  | last :: others => ", ".intercalate others.reverse ++ " or " ++ last

def IssueKind.message : IssueKind → String
  | .missing => "Field required"
  | .textType => "Input should be a valid string"
  | .boolType => "Input should be a valid boolean"
  | .boolParsing => "Input should be a valid boolean, unable to interpret input"
  | .intType => "Input should be a valid integer"
  | .intParsing => "Input should be a valid integer, unable to parse string as an integer"
  | .intParsingSize => "Unable to parse input string as an integer, exceeded maximum size"
  | .intFromReal => "Input should be a valid integer, got a number with a fractional part"
  | .finiteNumber => "Input should be a finite number"
  | .realType => "Input should be a valid number"
  | .realParsing => "Input should be a valid number, unable to parse string as a number"
  | .listType => "Input should be a valid list"
  | .recordType => "Input should be a valid dictionary"
  | .modelType title => "Input should be a valid dictionary or instance of " ++ title
  | .attributesType => "Input should be a valid dictionary or object to extract fields from"
  | .choice allowed => "Input should be " ++ quotedChoice allowed
  | .timeType => "Input should be a valid datetime"
  | .timeParsing fault => "Input should be a valid datetime, " ++ fault.text
  | .timeFromDateParsing fault => "Input should be a valid datetime or date, " ++ fault.text

/-- A step as it is named in a report; a name with a point stands between grave accents. -/
def PathStep.text : PathStep → String
  | .key name => if name.contains '.' then "`" ++ name ++ "`" else name
  | .index position => toString position

/-- The name of the type of a value. -/
def Json.typeName : Json → String
  | .null => "NoneType"
  | .bool _ => "bool"
  | .int _ => "int"
  | .real _ => "float"
  | .text _ => "str"
  | .list _ => "list"
  | .record _ => "dict"

def excerptBytes : Nat := 50

/-- The longest beginning of at most `size` bytes. -/
def takeBytes (size : Nat) : List Char → List Char
  | [] => []
  | c :: rest => if c.utf8Size ≤ size then c :: takeBytes (size - c.utf8Size) rest else []

/-- A long text as its beginning and its end, of at most 25 and 24 bytes. -/
def excerptOf (s : String) : String :=
  if excerptBytes < s.utf8ByteSize then
    let chars := s.toList
    String.ofList (takeBytes 25 chars ++ "...".toList ++ (takeBytes 24 chars.reverse).reverse)
  else s

/-- The page that explains a kind of issue. -/
def IssueKind.page (kind : IssueKind) : Address where
  scheme := "https".toList
  host := "errors.pydantic.dev".toList
  path := ("/2.14/v/" ++ kind.code).toList

/-- The paragraph of an issue. -/
def Issue.text (issue : Issue) : String :=
  let place := if issue.path.isEmpty then ""
    else ".".intercalate (issue.path.map PathStep.text) ++ "\n"
  place ++ "  " ++ issue.kind.message ++ " [type=" ++ issue.kind.code ++ ", input_value=" ++
    excerptOf issue.input.literal ++ ", input_type=" ++ issue.input.typeName ++
    "]\n    For further information visit " ++ issue.kind.page.text

/-- The report on a document of the type of that title. -/
def report (title : String) (issues : List Issue) : String :=
  let count := issues.length
  let opening := toString count ++
    (if count = 1 then " validation error for " else " validation errors for ") ++ title
  "\n".intercalate (opening :: issues.map Issue.text)

end MessageFlow
