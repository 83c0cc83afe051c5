import CodeSnapshot.Pattern.CharClass

/-!
# Patterns

The patterns that texts are searched for, as a tree. A pattern consumes characters, asserts
something about the place where it stands, or is put together from smaller patterns; a numbered
group remembers what it consumed. The order of alternatives, and whether a repetition prefers more
rounds or fewer, say which match wins where several are possible.
-/

namespace CodeSnapshot

/-- A condition on the place between two characters. -/
inductive Pattern.Place where
  | textStart
  | textEnd
  /-- at the start, or after a line feed -/
  | lineStart
  /-- at the end, or before a line feed -/
  | lineEnd
  /-- at the start, or after a line end, of which a carriage return is one too -/
  | anyLineStart
  | anyLineEnd
  /-- between a word character and another one, in the given class of word characters -/
  | wordEdge (word : Pattern.CharClass)
  | noWordEdge (word : Pattern.CharClass)
  | wordStart (word : Pattern.CharClass)
  | wordEnd (word : Pattern.CharClass)
  /-- not after a word character -/
  | noWordBefore (word : Pattern.CharClass)
  /-- not before a word character -/
  | noWordAfter (word : Pattern.CharClass)
  deriving Repr, DecidableEq

/-- How often something is repeated, and whether more rounds are preferred to fewer. -/
structure Pattern.Rounds where
  least : Nat
  most : Option Nat
  greedy : Bool
  deriving Repr, DecidableEq

inductive Pattern where
  | empty
  /-- one character of a class -/
  | one (k : Pattern.CharClass)
  /-- a run of characters of a class -/
  | run (k : Pattern.CharClass) (n : Pattern.Rounds)
  | place (p : Pattern.Place)
  | seq (a b : Pattern)
  | either (a b : Pattern)
  | group (number : Nat) (a : Pattern)
  | repeated (n : Pattern.Rounds) (a : Pattern)
  deriving Repr, DecidableEq

namespace Pattern

/-- The patterns one after the other. -/
def chain : List Pattern → Pattern
  | [] => .empty
  | p :: ps => ps.foldl .seq p

/-- The first of the patterns that matches. -/
def firstOf : List Pattern → Pattern
  | [] => .one CharClass.empty
  | [p] => p
  | p :: ps => .either p (firstOf ps)

/-- The characters of a word, one after the other. -/
def word (w : String) : Pattern :=
  chain (w.toList.map fun c => .one (CharClass.single c))

/-- The word in any case. -/
def anyCaseWord (w : String) : Pattern :=
  chain (w.toList.map fun c => .one (.caseless (CharClass.single c)))

/-- As many characters of a class as there are. -/
def many (k : CharClass) : Pattern :=
  .run k ⟨0, none, true⟩

/-- As many characters of a class as there are, and at least one. -/
def many1 (k : CharClass) : Pattern :=
  .run k ⟨1, none, true⟩

/-- The pattern, or nothing where it does not match. -/
def maybe (p : Pattern) : Pattern :=
  .repeated ⟨0, some 1, true⟩ p

/-- The greatest number of a group in the pattern; zero when there is none. -/
def groups : Pattern → Nat
  | .empty | .one _ | .run _ _ | .place _ => 0
  | .seq a b | .either a b => max a.groups b.groups
  | .group number a => max number a.groups
  | .repeated _ a => a.groups

/-- Whether every match of the pattern has at least one character. -/
def consumes : Pattern → Bool
  | .empty | .place _ => false
  | .one _ => true
  | .run _ n => 0 < n.least
  | .seq a b => a.consumes || b.consumes
  | .either a b => a.consumes && b.consumes
  | .group _ a => a.consumes
  | .repeated n a => 0 < n.least && a.consumes

end Pattern

end CodeSnapshot
