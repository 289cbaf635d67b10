/-!
Finding and replacing one text in another.
-/

namespace MessageFlow.Text

/-- Whether `part` occurs in the text as a contiguous piece. -/
def occursIn (part : List Char) : List Char → Bool
  | [] => part.isEmpty
  | c :: rest => part.isPrefixOf (c :: rest) || occursIn part rest

/-- Replaces the occurrences of `pattern` from left to right; `skip` characters of the occurrence
under way are still to be passed over. -/
def replaceFrom (pattern value : List Char) : Nat → List Char → List Char
  | _, [] => []
  | skip + 1, _ :: rest => replaceFrom pattern value skip rest
  | 0, c :: rest =>
    if pattern.isPrefixOf (c :: rest) then
      value ++ replaceFrom pattern value (pattern.length - 1) rest
    else c :: replaceFrom pattern value 0 rest

/-- The text with every occurrence of a non-empty pattern replaced. -/
def replace (pattern value : String) (s : String) : String :=
  String.ofList (replaceFrom pattern.toList value.toList 0 s.toList)

end MessageFlow.Text
