import CodeSnapshot.Pattern.Escape
import CodeSnapshot.Text.Bytes

/-!
# Regular expressions

What searching uses of an engine for regular expressions. The engine itself is a parameter: it compiles
a text or says why it cannot, and what it has compiled finds some captures in a line. Of these no more
is known than that each match is a part of the line.
-/

namespace CodeSnapshot

/-- What a regular expression finds at one place: the match, and what its groups hold, from the first
group on. -/
structure Captures where
  whole : ByteRange
  groups : List (Option ByteRange)
  deriving Repr, DecidableEq, Inhabited

/-- What a group holds; group zero is the match itself. -/
def Captures.group? (c : Captures) : Nat → Option ByteRange
  | 0 => some c.whole
  | n + 1 => c.groups[n]?.join

/-- A compiled regular expression. -/
structure Regex where
  /-- the first match in a text -/
  first? : String → Option Captures
  /-- all matches in a text, from left to right -/
  all : String → List Captures
  within : ∀ text, ∀ c ∈ all text, c.whole.Within text.toList

/-- An engine for regular expressions: what a text compiles to under some flags, or what is wrong with
it. -/
class Regexes where
  compile : Pattern.Flags → String → Except String Regex

end CodeSnapshot
