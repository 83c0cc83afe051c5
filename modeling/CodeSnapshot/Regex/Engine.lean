import CodeSnapshot.Pattern.Reader
import CodeSnapshot.Proofs.Pattern.MatchPlaces
import CodeSnapshot.Regex.Basic

/-!
# The engine

Patterns as regular expressions: what a pattern finds in a text, told by bytes.
-/

namespace CodeSnapshot.Pattern

/-- A piece of a text, by bytes. -/
def Piece.range (text : List Char) (piece : Piece) : ByteRange :=
  let start := Text.byteSize (text.take piece.start)
  ⟨start, start + Text.byteSize piece.text⟩

/-- A match in a text, by bytes. -/
def captures (p : Pattern) (text : List Char) (m : Match) : Captures where
  whole := m.whole.range text
  groups := (List.range p.groups).map fun i => (m.group? (i + 1)).map (Piece.range text)

/-- **A match lies in its text**, between two characters. -/
theorem within_captures {p : Pattern} {text : List Char} {m : Match} (h : m.StandsIn text) :
    (p.captures text m).whole.Within text := by
  obtain ⟨front, back, htext, hstart⟩ := h
  refine ⟨front, m.whole.text, back, htext, ?_, rfl⟩
  have hfront : text.take m.whole.start = front := by
    rw [htext, hstart, List.append_assoc, List.take_left]
  exact congrArg Text.byteSize hfront

/-- A pattern as a regular expression. -/
def regex (p : Pattern) : Regex where
  first? text := (p.search? (.start text.toList)).map fun (m, _) => p.captures text.toList m
  all text := (p.matchesIn text.toList).map (p.captures text.toList)
  within text c hc := by
    obtain ⟨m, hm, rfl⟩ := List.mem_map.1 hc
    exact within_captures (standsIn_of_mem_matchesIn hm)

/-- Patterns as an engine, with what is said about a text that is no pattern. -/
@[reducible] def regexes (errorText : Flags → String → String) : Regexes where
  compile flags text :=
    match read? flags text.toList with
    | some p => .ok p.regex
    | none => .error (errorText flags text)

end CodeSnapshot.Pattern
