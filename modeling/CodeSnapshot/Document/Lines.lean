/-!
# Lines of a text

A text as its lines, numbered from one, with the number of characters before each. A line ends at a
line feed; the line feed, and one carriage return before the end of the line, are not part of what
the line says, but they do count for the positions of later lines.
-/

namespace CodeSnapshot

/-- A line without its end, and the number of characters before it. -/
structure Line where
  text : String
  offset : Nat
  deriving Repr, DecidableEq, Inhabited

/-- The lines of a text. -/
structure Lines where
  entries : List Line
  deriving Repr, DecidableEq, Inhabited

namespace Lines

/-- A text cut behind every line feed. -/
def cut (text : List Char) : List (List Char) :=
  text.foldr
    (fun c pieces =>
      if c = '\n' then [c] :: pieces
      else
        match pieces with
        | [] => [[c]]
        | piece :: pieces => (c :: piece) :: pieces)
    []

/-- The text without a given last character. -/
def dropLast (c : Char) (text : List Char) : List Char :=
  if text.getLast? = some c then text.dropLast else text

/-- What a piece of text says as a line: it loses one line feed at its end, and then one carriage
return. -/
def content (piece : List Char) : List Char :=
  dropLast '\r' (dropLast '\n' piece)

/-- The pieces as lines, the first of which starts at `offset`. -/
def place : (offset : Nat) → List (List Char) → List Line
  | _, [] => []
  | offset, piece :: pieces =>
    ⟨String.ofList (content piece), offset⟩ :: place (offset + piece.length) pieces

/-- The lines of a text. -/
def ofText (text : String) : Lines :=
  ⟨place 0 (cut text.toList)⟩

def size (ls : Lines) : Nat :=
  ls.entries.length

/-- What the lines say. -/
def texts (ls : Lines) : List String :=
  ls.entries.map (·.text)

/-- The line with a number, counted from one. -/
def get? (ls : Lines) (number : Nat) : Option Line :=
  if number = 0 then none else ls.entries[number - 1]?

/-- The lines with their numbers. -/
def numbered (ls : Lines) : List (Nat × Line) :=
  ls.entries.zipIdx.map fun (line, i) => (i + 1, line)

/-- The lines from one number through another, as far as they exist. -/
def slice (ls : Lines) (first last : Nat) : List Line :=
  (ls.entries.take last).drop (first - 1)

/-- The number of characters up to the end of the last line. -/
def chars (ls : Lines) : Nat :=
  match ls.entries.getLast? with
  | some line => line.offset + line.text.length
  | none => 0

/-! ## Small facts -/

@[simp] theorem cut_nil : cut [] = [] := rfl

theorem cut_cons_newline (text : List Char) : cut ('\n' :: text) = ['\n'] :: cut text := by
  simp [cut]

/-- Nothing is lost when a text is cut. -/
theorem flatten_cut (text : List Char) : (cut text).flatten = text := by
  induction text with
  | nil => rfl
  | cons c text ih =>
    have h : cut (c :: text) =
        if c = '\n' then [c] :: cut text
        else match cut text with
          | [] => [[c]]
          | piece :: pieces => (c :: piece) :: pieces := rfl
    rw [h]
    split
    · simp [ih]
    · split
      · rename_i hnil
        rw [hnil] at ih
        simp_all
      · rename_i hcons
        rw [hcons] at ih
        simp_all

theorem length_place (offset : Nat) (pieces : List (List Char)) :
    (place offset pieces).length = pieces.length := by
  induction pieces generalizing offset with
  | nil => rfl
  | cons piece pieces ih => simp [place, ih]

end Lines

end CodeSnapshot
