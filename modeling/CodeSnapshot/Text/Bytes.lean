/-!
# Bytes of a text

Places in a text are counted in characters. Where they are told by the bytes of its UTF-8 form, what
lies before so many bytes gives the place in characters.
-/

namespace CodeSnapshot

namespace Text

/-- How many bytes a text takes. -/
def byteSize : List Char → Nat
  | [] => 0
  | c :: rest => c.utf8Size + byteSize rest

/-- The characters that take no more than so many bytes. -/
def takeBytes : (bytes : Nat) → List Char → List Char
  | _, [] => []
  | bytes, c :: rest =>
    if c.utf8Size ≤ bytes then c :: takeBytes (bytes - c.utf8Size) rest else []

/-- The characters behind those that take no more than so many bytes. -/
def dropBytes (bytes : Nat) (text : List Char) : List Char :=
  text.drop (takeBytes bytes text).length

end Text

/-- A part of a text, by how many bytes lie before its start and before its end. -/
structure ByteRange where
  start : Nat
  stop : Nat
  deriving Repr, DecidableEq, Inhabited

namespace ByteRange

/-- What a text says there. -/
def textIn (r : ByteRange) (text : List Char) : List Char :=
  Text.takeBytes (r.stop - r.start) (Text.dropBytes r.start text)

/-- The part begins and ends between two characters of a text. -/
def Within (r : ByteRange) (text : List Char) : Prop :=
  ∃ front piece back, text = front ++ piece ++ back ∧
    r.start = Text.byteSize front ∧ r.stop = r.start + Text.byteSize piece

end ByteRange

/-! ## Small facts -/

namespace Text

/-- What takes so many bytes comes first. -/
theorem takeBytes_byteSize (front back : List Char) :
    takeBytes (byteSize front) (front ++ back) = front := by
  induction front with
  | nil =>
    cases back with
    | nil => rfl
    | cons c back => exact if_neg (Nat.not_le.2 c.utf8Size_pos)
  | cons c front ih =>
    have hsize : byteSize (c :: front) = c.utf8Size + byteSize front := rfl
    rw [List.cons_append, takeBytes, hsize, if_pos (Nat.le_add_right ..), Nat.add_sub_cancel_left,
      ih]

theorem dropBytes_byteSize (front back : List Char) :
    dropBytes (byteSize front) (front ++ back) = back := by
  rw [dropBytes, takeBytes_byteSize, List.drop_left]

end Text

/-- **A part of a text** says what stands there, and as many characters precede it as take the bytes
before it. -/
theorem ByteRange.textIn_of_within {r : ByteRange} {text : List Char} (h : r.Within text) :
    ∃ back, text = Text.takeBytes r.start text ++ r.textIn text ++ back := by
  obtain ⟨front, piece, back, rfl, hstart, hstop⟩ := h
  refine ⟨back, ?_⟩
  rw [textIn, hstop, Nat.add_sub_cancel_left, hstart, List.append_assoc, Text.takeBytes_byteSize,
    Text.dropBytes_byteSize, Text.takeBytes_byteSize, List.append_assoc]

end CodeSnapshot
