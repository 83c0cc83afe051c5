import CodeSnapshot.Pattern.Basic

/-!
# Matching

Where a pattern can end when it starts at a given place, in order of preference and each end once:
the first of them is the match. An end is kept only the first time it is reached, because what can
follow it has been tried by then; this keeps the lists no longer than the text. For the same reason
the alternatives at one spot of a pattern are not met again before a character is consumed, so that
a repetition of what may be empty comes to an end.
Searching goes from left to right, and the next match starts where the last one ended; a match of
nothing right at that place is passed over.
-/

namespace CodeSnapshot.Pattern

/-- A place in a text: the character before it, the text from there on, and how many characters
precede it. -/
structure Cursor where
  before : Option Char
  rest : List Char
  position : Nat
  deriving Repr, DecidableEq

/-- The start of a text. -/
def Cursor.start (text : List Char) : Cursor := ⟨none, text, 0⟩

/-- The place behind the next character. -/
def Cursor.next? : Cursor → Option Cursor
  | ⟨_, [], _⟩ => none
  | ⟨_, c :: rest, n⟩ => some ⟨some c, rest, n + 1⟩

/-- The place `n` characters further on. -/
def Cursor.advance : Cursor → Nat → Cursor
  | cursor, 0 => cursor
  | ⟨before, [], position⟩, _ + 1 => ⟨before, [], position⟩
  | ⟨_, c :: rest, position⟩, n + 1 => Cursor.advance ⟨some c, rest, position + 1⟩ n

/-- Whether an optional character is there and belongs to a class. -/
def isIn (k : CharClass) (c : Option Char) : Bool :=
  c.any k.contains

/-- Whether a condition holds at a place. -/
def Place.holdsAt (p : Place) (cursor : Cursor) : Bool :=
  let before := cursor.before
  let after := cursor.rest.head?
  match p with
  | .textStart => before.isNone
  | .textEnd => after.isNone
  | .lineStart => before.isNone || before == some '\n'
  | .lineEnd => after.isNone || after == some '\n'
  | .anyLineStart =>
    before.isNone || before == some '\n' || (before == some '\r' && after != some '\n')
  | .anyLineEnd =>
    after.isNone || after == some '\r' || (after == some '\n' && before != some '\r')
  | .wordEdge w => isIn w before != isIn w after
  | .noWordEdge w => isIn w before == isIn w after
  | .wordStart w => !isIn w before && isIn w after
  | .wordEnd w => isIn w before && !isIn w after
  | .noWordBefore w => !isIn w before
  | .noWordAfter w => !isIn w after

/-- What a group holds: where it starts, and the characters. -/
structure Piece where
  start : Nat
  text : List Char
  deriving Repr, DecidableEq

/-- The position right behind a piece. -/
def Piece.stop (p : Piece) : Nat :=
  p.start + p.text.length

/-- Where a part stands in a pattern: the branches on the way to it, the last one first. -/
abbrev Spot := List Nat

/-- A place reached by a pattern, what its groups hold there (the latest first), and the spots where
alternatives were met since the last character was consumed. -/
structure Reached where
  cursor : Cursor
  groups : List (Nat × Piece) := []
  met : List Spot := []
  deriving Repr, DecidableEq

namespace Reached

def position (r : Reached) : Nat :=
  r.cursor.position

/-- The characters between two places, of which the second is reached from the first. -/
def between (start stop : Cursor) : Piece :=
  ⟨start.position, start.rest.take (stop.position - start.position)⟩

/-- Notes that a group holds what was consumed since `start`. -/
def close (number : Nat) (start : Cursor) (r : Reached) : Reached :=
  { r with groups := (number, between start r.cursor) :: r.groups }

/-- Behind the next character, if it belongs to a class. -/
def consume? (k : CharClass) (r : Reached) : Option Reached :=
  match r.cursor.rest with
  | [] => none
  | c :: rest =>
    if k.contains c then some { r with cursor := ⟨some c, rest, r.position + 1⟩, met := [] }
    else none

/-- Meets the alternatives at a spot, unless they were met here before. -/
def meet? (spot : Spot) (r : Reached) : Option Reached :=
  if r.met.contains spot then none else some { r with met := spot :: r.met }

/-- Adds a place to a list, newest first, unless its position is there already. -/
def note (found : List Reached) (r : Reached) : List Reached :=
  if found.any (·.position == r.position) then found else r :: found

/-- Each position once, where it stands first. -/
def distinct (rs : List Reached) : List Reached :=
  (rs.foldl note []).reverse

/-- How many of the next characters belong to a class, counted up to a limit. -/
def runLength (k : CharClass) : Option Nat → List Char → Nat
  | some 0, _ => 0
  | _, [] => 0
  | limit, c :: rest => if k.contains c then runLength k (limit.map (· - 1)) rest + 1 else 0

/-- The places behind `least`, `least + 1`, … up to `n` characters, in that order; behind a
character the spots `met` have been met. -/
def ladder (r : Reached) (met : List Spot) (least n : Nat) : List Reached :=
  (go (r.cursor.advance least) (n + 1 - least))
where
  go (cursor : Cursor) : Nat → List Reached
    | 0 => []
    | count + 1 =>
      { r with cursor, met := if cursor.position = r.position then r.met else met }
        :: go (cursor.advance 1) count

/-- The ends of a run of characters of a class, which stands at a spot. Without bounds the choice
behind a character is the one before it. -/
def endsOfRun (k : CharClass) (n : Rounds) (spot : Spot) (r : Reached) : List Reached :=
  let met := if n.least = 0 && n.most.isNone then [spot] else []
  let up := r.ladder met n.least (runLength k n.most r.cursor.rest)
  if n.greedy then up.reverse else up

/-- What is repeated: its ends from a place on, when the round stands at a spot. -/
abbrev Body := Spot → Reached → List Reached

/-- The ends of exactly `count` rounds. -/
def times (body : Body) (spot : Spot) : (count : Nat) → List Reached → List Reached
  | 0, rs => rs
  | _ + 1, [] => []
  | count + 1, rs => times body spot count (distinct (rs.flatMap (body (count :: spot))))

/-- The state of a walk through further rounds: where rounds began and where rounds ended (by
position and number of rounds left), and the places reached, newest first. -/
structure Walk where
  begun : List (Nat × Option Nat) := []
  ended : List (Nat × Option Nat) := []
  found : List Reached := []

/-- A repetition: what is repeated, whether more rounds are preferred, where the rounds stand, and
where it is chosen between one more round and the end; both by the number of rounds left. -/
structure Loop where
  body : Body
  greedy : Bool
  round : Option Nat → Spot
  choice : Option Nat → Spot

/-- From a place on, begins one more round if rounds are left and none began there yet, and goes on
in the same way from each of its ends where no round ended yet. An end counts as reached after the
places beyond it when more rounds are preferred, and before them when fewer are. -/
def explore (loop : Loop) : (fuel : Nat) → (left : Option Nat) → Reached → Walk → Walk
  | 0, _, _, w => w
  | fuel + 1, left, r, w =>
    if left = some 0 || w.begun.contains (r.position, left) then w
    else
      let rest := left.map (· - 1)
      (loop.body (loop.round left) r).foldl
        (fun w e =>
          if w.ended.contains (e.position, rest) then w
          else
            let w := { w with ended := (e.position, rest) :: w.ended }
            match e.meet? (loop.choice rest) with
            | none => w
            | some e =>
              if loop.greedy then
                let w := explore loop fuel rest e w
                { w with found := note w.found e }
              else explore loop fuel rest e { w with found := note w.found e })
        { w with begun := (r.position, left) :: w.begun }

/-- The ends of one round and any number of further ones. -/
def oneOrMore (loop : Loop) (r : Reached) : List Reached :=
  (explore loop (r.cursor.rest.length + 2) none r {}).found.reverse

/-- The ends of any number of rounds up to `left`. -/
def upTo (loop : Loop) (left : Option Nat) (r : Reached) : List Reached :=
  let fuel := left.getD (r.cursor.rest.length + 1) + 1
  if loop.greedy then (note (explore loop fuel left r {}).found r).reverse
  else (explore loop fuel left r { found := [r] }).found.reverse

/-- The ends of a repetition that stands at a spot. When every round consumes something and none is
asked for, the choice behind a round is the one before it. -/
def endsOfRounds (body : Body) (consumes : Bool) (n : Rounds) (spot : Spot) (r : Reached) :
    List Reached :=
  let first := 0 :: spot
  match n.most with
  | some most =>
    let left := most - n.least
    let loop : Loop :=
      { body, greedy := n.greedy, round := fun left => left.getD 0 :: 1 :: spot
        choice := fun left => left.getD 0 :: 2 :: spot }
    let starts := (times body first n.least [r]).filterMap (meet? (loop.choice (some left)))
    distinct (starts.flatMap (upTo loop (some left)))
  | none =>
    let loop : Loop :=
      { body, greedy := n.greedy, round := fun _ => 1 :: spot
        choice := fun _ => if consumes && n.least = 0 then spot else 2 :: spot }
    match n.least with
    | 0 => (r.meet? spot).toList.flatMap (upTo loop none)
    | least + 1 => distinct ((times body first least [r]).flatMap (oneOrMore loop))

end Reached

open Reached

/-- Where a pattern that stands at a spot can end, in order of preference, each position once. -/
def ends : Pattern → Spot → Reached → List Reached
  | .empty, _, r => [r]
  | .one k, _, r => (r.consume? k).toList
  | .run k n, spot, r => (r.meet? spot).toList.flatMap (endsOfRun k n spot)
  | .place p, _, r => if p.holdsAt r.cursor then [r] else []
  | .seq a b, spot, r => distinct ((a.ends (0 :: spot) r).flatMap (b.ends (1 :: spot)))
  | .either a b, spot, r =>
    (r.meet? spot).toList.flatMap fun r =>
      distinct (a.ends (0 :: spot) r ++ b.ends (1 :: spot) r)
  | .group number a, spot, r => (a.ends (0 :: spot) r).map (close number r.cursor)
  | .repeated n a, spot, r => endsOfRounds a.ends a.consumes n spot r

/-- A match: the whole of it and what its groups hold. -/
structure Match where
  whole : Piece
  groups : List (Nat × Piece)
  deriving Repr, DecidableEq

/-- What a group holds, if it took part in the match. -/
def Match.group? (m : Match) (number : Nat) : Option Piece :=
  (m.groups.find? (·.1 == number)).map (·.2)

/-- The characters that a group holds, if it took part in the match. -/
def Match.groupText? (m : Match) (number : Nat) : Option (List Char) :=
  (m.group? number).map (·.text)

/-- The preferred match that starts at a place, and the place behind it. -/
def matchAt? (p : Pattern) (cursor : Cursor) : Option (Match × Cursor) :=
  (p.ends [] { cursor }).head?.map fun r => (⟨between cursor r.cursor, r.groups⟩, r.cursor)

/-- The first match at a place or behind it. -/
def matchFrom? (p : Pattern) (before : Option Char) (position : Nat) :
    List Char → Option (Match × Cursor)
  | [] => p.matchAt? ⟨before, [], position⟩
  | c :: rest =>
    match p.matchAt? ⟨before, c :: rest, position⟩ with
    | some m => some m
    | none => p.matchFrom? (some c) (position + 1) rest

/-- The first match from a cursor on. -/
def search? (p : Pattern) (cursor : Cursor) : Option (Match × Cursor) :=
  p.matchFrom? cursor.before cursor.position cursor.rest

/-- The next match after one that ended at the cursor (or after none, if `last` is `none`): a match
of nothing at the end of the last one is passed over. -/
def nextMatch? (p : Pattern) (last : Option Nat) (cursor : Cursor) : Option (Match × Cursor) :=
  match p.search? cursor with
  | none => none
  | some (m, stop) =>
    if m.whole.text.isEmpty && some stop.position == last then
      match cursor.next? with
      | none => none
      | some further => p.search? further
    else some (m, stop)

/-- The matches from a cursor on, at most `fuel` of them. -/
def matchesFrom (p : Pattern) : (fuel : Nat) → (last : Option Nat) → Cursor → List Match
  | 0, _, _ => []
  | fuel + 1, last, cursor =>
    match p.nextMatch? last cursor with
    | none => []
    | some (m, stop) => m :: p.matchesFrom fuel (some stop.position) stop

/-- All matches in a text, from left to right; no two overlap. -/
def matchesIn (p : Pattern) (text : List Char) : List Match :=
  p.matchesFrom (text.length + 1) none (Cursor.start text)

/-- Whether a pattern matches somewhere in a text. -/
def occursIn (p : Pattern) (text : List Char) : Bool :=
  (p.search? (Cursor.start text)).isSome

end CodeSnapshot.Pattern
