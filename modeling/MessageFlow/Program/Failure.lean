import MessageFlow.Document.Report
import MessageFlow.Execution.Delay
import MessageFlow.Web.Address

/-!
Why an operation stops early.
-/

namespace MessageFlow

inductive Failure where
  /-- The execution was written by someone else since that revision. -/
  | conflict (executionId : String) (revision : Int)
  | store (message : String)
  | storeNotConfigured
  | transportCrashed
  | delay (error : DelayError)
  | invalidDocument (title : String) (issues : List Issue)
  /-- A document holds a value that is nested too deep to be written. -/
  | nestedTooDeep
  /-- A body holds a number for which JSON text has no word. -/
  | numberWithoutText
  | address (error : AddressError)
  /-- The answer of an address without a scheme or a host cannot be received. -/
  | unknownScheme (address : String)
  /-- A header holds characters outside ASCII. -/
  | foreignHeader (value : String)
  /-- A comment that is no text has no words. -/
  | wordsOf (value : Json)
  deriving DecidableEq, Repr

namespace Failure

/-- The name of the kind of failure. -/
def kind : Failure → String
  | .conflict .. => "ConcurrentModificationError"
  | .store _ | .storeNotConfigured | .transportCrashed => "RuntimeError"
  | .delay error => match error with
    | .missingAmount | .recordAmount | .listAmount | .unusableUnit _ => "TypeError"
    | .notNumeral _ | .tooManyDigits _ | .undefinedAmount => "ValueError"
    | .infiniteAmount | .tooLarge | .tooManyDays _ | .outOfCalendar => "OverflowError"
  | .invalidDocument .. => "ValidationError"
  | .nestedTooDeep | .numberWithoutText | .unknownScheme _ => "ValueError"
  | .address _ => "InvalidURL"
  | .foreignHeader _ => "UnicodeEncodeError"
  | .wordsOf _ => "TypeError"

/-- Where the characters of a header stand that ASCII lacks. -/
def foreignPlace (value : String) : String :=
  match Text.foreignStretch value.toList with
  | (position, [c]) =>
    "character '" ++ String.ofList (Text.codeEscape c) ++ "' in position " ++ toString position
  | (position, stretch) =>
    "characters in position " ++ toString position ++ "-" ++
      toString (position + stretch.length - 1)

def message : Failure → String
  | .conflict executionId revision =>
    "Execution " ++ executionId ++ " changed since revision " ++ toString revision
  | .store message => message
  | .storeNotConfigured => "SUPABASE_URL and SUPABASE_KEY must be configured"
  | .transportCrashed => "transport crashed"
  | .delay error => error.message
  | .invalidDocument title issues => report title issues
  | .nestedTooDeep => "Maximum serialization depth exceeded"
  | .numberWithoutText => "Out of range float values are not JSON compliant"
  | .address error => error.message
  | .unknownScheme written => "unknown url type: " ++ Text.quoted written
  | .foreignHeader value =>
    "'ascii' codec can't encode " ++ foreignPlace value ++ ": ordinal not in range(128)"
  | .wordsOf value => "expected string or bytes-like object, got '" ++ value.typeName ++ "'"

def isConflict : Failure → Bool
  | .conflict .. => true
  | _ => false

/-- Whether the failure is neither one that the store has put in words, nor a conflict. -/
def isOwn : Failure → Bool
  | .store _ | .conflict .. => false
  | _ => true

theorem isConflict_of_isOwn {failure : Failure} (own : failure.isOwn = true) :
    failure.isConflict = false := by
  cases failure with
  | conflict => cases own
  | _ => rfl

/-- The text recorded for a failure: its message, or its kind when the message is empty. -/
def record (failure : Failure) : String :=
  if failure.message.isEmpty then failure.kind else failure.message

end Failure
end MessageFlow
