/-!
# Truncated text

A text that is too long for a reader is cut after a number of characters, and a last line says how
much of it is shown.
-/

namespace CodeSnapshot.Text

/-- The first `limit` characters. -/
def truncate (limit : Nat) (text : String) : String :=
  String.ofList (text.toList.take limit)

/-- The line that follows a text of `total` characters cut after `limit`. -/
def truncationMark (limit total : Nat) : String :=
  s!"\n... [truncated: showing {limit} of {total} chars]"

/-- The text itself if it has at most `limit` characters, else its first `limit` characters and a
line that names both numbers; and whether anything was dropped. -/
def truncateMarked (limit : Nat) (text : String) : String × Bool :=
  if text.length ≤ limit then (text, false)
  else (truncate limit text ++ truncationMark limit text.length, true)

/-- A text that fits is left as it is. -/
theorem truncateMarked_of_length_le {limit : Nat} {text : String} (h : text.length ≤ limit) :
    truncateMarked limit text = (text, false) := by
  simp [truncateMarked, h]

theorem truncateMarked_of_lt_length {limit : Nat} {text : String} (h : limit < text.length) :
    truncateMarked limit text =
      (truncate limit text ++ truncationMark limit text.length, true) := by
  simp [truncateMarked, Nat.not_le.2 h]

end CodeSnapshot.Text
