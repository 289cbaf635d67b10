/-!
Limits on the length of texts, in characters.
-/

namespace MessageFlow

/-- The first `count` items, or all but the last `-count` when the count is negative. -/
def clip (count : Int) (items : List α) : List α :=
  if 0 ≤ count then items.take count.toNat else items.take (items.length - (-count).toNat)

def defaultMaxMessageLength : Int := 1000

/-- A text longer than the limit gives way to its beginning and three points. -/
def truncateMessage (limit : Int) (text : String) : String :=
  if (text.length : Int) ≤ limit then text
  else String.ofList (clip (limit - 3) text.toList ++ ['.', '.', '.'])

theorem truncateMessage_of_le {limit : Int} {text : String} (fits : (text.length : Int) ≤ limit) :
    truncateMessage limit text = text := if_pos fits

def replyTitleLimit : Nat := 20

def truncateTitle (title : String) : String := String.ofList (title.toList.take replyTitleLimit)

theorem length_truncateTitle_le (title : String) :
    (truncateTitle title).length ≤ replyTitleLimit := by
  rw [truncateTitle, String.length_ofList]
  exact List.length_take_le replyTitleLimit title.toList

end MessageFlow
