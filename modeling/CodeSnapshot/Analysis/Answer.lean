import CodeSnapshot.Text.Blank
import CodeSnapshot.Text.Piece

/-!
# Final answers

A model marks its final answer with a delimiter on either side; anything around them is dropped.
-/

namespace CodeSnapshot.Answer

/-- What precedes an answer. -/
def opening : String := "<<<FINAL>>>"

/-- What follows an answer. -/
def closing : String := "<<<END>>>"

/-- The text between the first opening delimiter and the first closing one behind it, without blanks
at its ends. -/
def findChars? (reply : List Char) : Option (List Char) :=
  (Text.cutAt? opening.toList reply).bind fun (_, rest) =>
    (Text.cutAt? closing.toList rest).map fun (answer, _) => Text.trim answer

/-- The final answer in a reply. -/
def find? (reply : String) : Option String :=
  (findChars? reply.toList).map String.ofList

end CodeSnapshot.Answer
