import CodeSnapshot.Pattern.Matching

/-!
# Match places — where in a text its matches stand

A match is given by a position and the characters that were consumed from there on. Both are kept by
cursors, which carry the rest of the text along. What ties them together is a relation between two
cursors of one text:

* **`Cursor.LeadsTo`** — the second cursor stands behind what lies between the two.
* **`Body.Counts`** — a condition on places that goes by the number of rounds that led there;
  `all_endsOfRounds` says how many rounds lead to the ends of a repetition.
* **`Steady`** — a condition on places that is kept on the way ahead; each way to go on keeps it
  (`Steady.consume?`, `Steady.endsOfRun`), and so does a whole pattern, if its groups do when they are
  closed (`all_ends`). Being ahead is such a condition.
* **`FoundFrom`** — where a match comes from: an end of the pattern, with the groups it has there.
* **`StandsIn`** — a match stands in a text at its position. `standsIn_of_mem_matchesIn` is what
  everything about positions uses of the matching.
-/

namespace CodeSnapshot.Pattern

/-! ## Cursors of one text -/

namespace Cursor

/-- The second cursor is reached from the first one by going on in the text. -/
def LeadsTo (a b : Cursor) : Prop :=
  ∃ front, a.rest = front ++ b.rest ∧ b.position = a.position + front.length ∧
    b.before = front.getLast?.or a.before

/-- The place behind the front part of a text. -/
def behind (front rest : List Char) : Cursor := ⟨front.getLast?, rest, front.length⟩

variable {a b c : Cursor}

theorem LeadsTo.refl (a : Cursor) : a.LeadsTo a := ⟨[], rfl, rfl, rfl⟩

theorem LeadsTo.trans (hab : a.LeadsTo b) (hbc : b.LeadsTo c) : a.LeadsTo c := by
  obtain ⟨front, hrest, hposition, hbefore⟩ := hab
  obtain ⟨middle, hrest', hposition', hbefore'⟩ := hbc
  refine ⟨front ++ middle, ?_, ?_, ?_⟩
  · rw [hrest, hrest', List.append_assoc]
  · rw [hposition', hposition, List.length_append, Nat.add_assoc]
  · rw [hbefore', hbefore, List.getLast?_append, Option.or_assoc]

theorem leadsTo_behind (before : Option Char) (d : Char) (rest : List Char) (position : Nat) :
    LeadsTo ⟨before, d :: rest, position⟩ ⟨some d, rest, position + 1⟩ :=
  ⟨[d], rfl, rfl, rfl⟩

theorem leadsTo_next? (h : a.next? = some b) : a.LeadsTo b := by
  obtain ⟨before, rest, position⟩ := a
  cases rest with
  | nil => cases h
  | cons d rest =>
    cases h
    exact leadsTo_behind before d rest position

theorem leadsTo_advance (a : Cursor) (n : Nat) : a.LeadsTo (a.advance n) := by
  fun_induction advance a n with
  | case1 a => exact .refl a
  | case2 before position n => exact .refl _
  | case3 before d rest position n ih => exact (leadsTo_behind before d rest position).trans ih

end Cursor

/-- What lies between two cursors is what the second one has no more in its rest. -/
theorem Reached.rest_eq_between {a b : Cursor} (h : a.LeadsTo b) :
    a.rest = (between a b).text ++ b.rest := by
  obtain ⟨front, hrest, hposition, -⟩ := h
  have htext : (between a b).text = front := by
    rw [between, hrest, hposition, Nat.add_sub_cancel_left, List.take_left]
  rw [htext, hrest]

/-! ## Steady conditions -/

namespace Reached

/-- A condition that is kept when a place is left for one ahead of it. -/
def Steady (Q : Reached → Prop) : Prop :=
  ∀ r cursor met, Q r → r.cursor.LeadsTo cursor → Q { r with cursor, met }

/-- All of these places satisfy a condition. -/
def All (Q : Reached → Prop) (rs : List Reached) : Prop :=
  ∀ r ∈ rs, Q r

variable {Q : Reached → Prop} {rs : List Reached} {r e : Reached} {spot : Spot}

theorem all_nil (Q : Reached → Prop) : All Q [] := nofun

theorem all_singleton (h : Q r) : All Q [r] :=
  fun _ he => List.mem_singleton.1 he ▸ h

theorem All.append {rs' : List Reached} (h : All Q rs) (h' : All Q rs') : All Q (rs ++ rs') := by
  intro e he
  rcases List.mem_append.1 he with he | he
  · exact h e he
  · exact h' e he

theorem All.reverse (h : All Q rs) : All Q rs.reverse :=
  fun e he => h e (List.mem_reverse.1 he)

theorem All.flatMap {P : Reached → Prop} {f : Reached → List Reached} (h : All P rs)
    (hf : ∀ r, P r → All Q (f r)) : All Q (rs.flatMap f) := by
  intro e he
  obtain ⟨r, hr, he⟩ := List.mem_flatMap.1 he
  exact hf r (h r hr) e he

theorem All.note (h : All Q rs) (hr : Q r) : All Q (note rs r) := by
  rw [Reached.note]
  split
  · exact h
  · exact (all_singleton hr).append h

theorem All.distinct (h : All Q rs) : All Q (distinct rs) :=
  All.reverse <| List.foldlRecOn (motive := All Q) rs _ (all_nil Q)
    fun _ hfound r hr => hfound.note (h r hr)

/-! ## Rounds -/

/-- A condition that does not go by the spots that were met. -/
def Still (Q : Reached → Prop) : Prop :=
  ∀ r met, Q r → Q { r with met }

/-- What is repeated takes a condition from one number of rounds to the next. -/
def Body.Counts (Q : Nat → Reached → Prop) (body : Body) : Prop :=
  ∀ spot count r, Q count r → All (Q (count + 1)) (body spot r)

theorem Still.meet? (hQ : Still Q) (hr : Q r) (h : r.meet? spot = some e) : Q e := by
  rw [Reached.meet?] at h
  split at h
  · cases h
  · cases h
    exact hQ r _ hr

theorem Still.all_meet? (hQ : Still Q) (hr : Q r) : All Q (r.meet? spot).toList :=
  fun _ he => hQ.meet? hr (Option.mem_toList.1 he)

section

variable {Q : Nat → Reached → Prop} {T : Reached → Prop} {body : Body} {loop : Loop} {count : Nat}
  {most : Option Nat}

theorem all_times (hbody : body.Counts Q) (spot : Spot) (more : Nat) (h : All (Q count) rs) :
    All (Q (count + more)) (times body spot more rs) := by
  induction more generalizing count rs with
  | zero => cases rs <;> exact h
  | succ more ih =>
    cases rs with
    | nil => exact nofun
    | cons r rs =>
      have hcount : count + (more + 1) = count + 1 + more := by omega
      rw [hcount]
      exact ih (h.flatMap (hbody _ count)).distinct

variable (hQ : ∀ count, Still (Q count)) (hbody : loop.body.Counts Q)
include hQ hbody

/-- **A walk through further rounds** reaches places that some number of rounds lead to, more than
led to its start and not more than there may be. Induction on the fuel; inside a round, the places
found so far are what is kept from end to end. -/
theorem all_explore (hT : ∀ count' r, count < count' → (∀ m ∈ most, count' ≤ m) → Q count' r → T r)
    (fuel : Nat) (hmost : ∀ m ∈ most, count ≤ m) (hr : Q count r) {w : Walk} (hw : All T w.found) :
    All T (explore loop fuel (most.map (· - count)) r w).found := by
  induction fuel generalizing count r w with
  | zero => exact hw
  | succ fuel ih =>
    rw [explore]
    split
    · exact hw
    · rename_i hgo
      have hnext : ∀ m ∈ most, count + 1 ≤ m := by
        rintro m rfl
        have hle := hmost m rfl
        have hne : m - count ≠ 0 := fun hzero => hgo (by simp [hzero])
        omega
      have hleft : (most.map (· - count)).map (· - 1) = most.map (· - (count + 1)) := by
        rw [Option.map_map]
        rfl
      have hT' (count' : Nat) (r : Reached) (hlt : count + 1 < count') :=
        hT count' r (Nat.lt_of_succ_lt hlt)
      rw [hleft]
      refine List.foldlRecOn (motive := fun w : Walk => All T w.found) _ _ hw ?_
      intro w hw e he
      have hend : Q (count + 1) e := hbody _ count r hr e he
      split
      · exact hw
      · dsimp only
        split
        · exact hw
        · rename_i e' hmeet
          have hmet : Q (count + 1) e' := (hQ _).meet? hend hmeet
          have hfound : T e' := hT _ e' (Nat.lt_succ_self count) hnext hmet
          have hended {w : Walk} (hw : All T w.found) (ended : List (Nat × Option Nat)) :
              All T { w with ended }.found := hw
          split
          · exact (ih hT' hnext hmet (hended hw _)).note hfound
          · exact ih hT' hnext hmet (hw.note hfound)

theorem all_oneOrMore (hT : ∀ count' r, count < count' → Q count' r → T r) (hr : Q count r) :
    All T (oneOrMore loop r) := by
  have hmost : ∀ m ∈ (none : Option Nat), count ≤ m := nofun
  exact (all_explore hQ hbody (fun count' r hlt _ => hT count' r hlt) _ hmost hr (all_nil T)).reverse

theorem all_upTo (hT : ∀ count' r, count ≤ count' → (∀ m ∈ most, count' ≤ m) → Q count' r → T r)
    (hmost : ∀ m ∈ most, count ≤ m) (hr : Q count r) :
    All T (upTo loop (most.map (· - count)) r) := by
  have hstart : T r := hT count r (Nat.le_refl _) hmost hr
  have hfurther (count' : Nat) (r : Reached) (hlt : count < count') :=
    hT count' r (Nat.le_of_lt hlt)
  rw [upTo]
  split
  · exact ((all_explore hQ hbody hfurther _ hmost hr (all_nil T)).note hstart).reverse
  · exact (all_explore hQ hbody hfurther _ hmost hr (all_singleton hstart)).reverse

end

/-- **The ends of a repetition** are places that as many rounds lead to as are asked for, at least,
and no more than there may be. -/
theorem all_endsOfRounds {Q : Nat → Reached → Prop} {body : Body} (hQ : ∀ count, Still (Q count))
    (hbody : body.Counts Q) (consumes : Bool) (n : Rounds) (spot : Spot) (hr : Q 0 r) :
    All (fun e => ∃ count, n.least ≤ count ∧ (∀ m ∈ n.most, count ≤ max n.least m) ∧ Q count e)
      (endsOfRounds body consumes n spot r) := by
  have htimes (count : Nat) : All (Q count) (times body (0 :: spot) count [r]) := by
    have h := all_times hbody (0 :: spot) count (all_singleton hr)
    rwa [Nat.zero_add] at h
  rw [endsOfRounds]
  dsimp only
  split
  · rename_i m hmost
    -- the places where the rounds that are asked for end, as far as a choice can be made there
    refine (All.flatMap (P := Q n.least) ?_ fun e he => ?_).distinct
    · intro e he
      obtain ⟨e', he', hmeet⟩ := List.mem_filterMap.1 he
      exact (hQ _).meet? (htimes n.least e' he') hmeet
    · have hleft : some (m - n.least) = (some (max n.least m)).map (· - n.least) := by
        rw [Option.map_some, Option.some.injEq]
        omega
      rw [hleft]
      refine all_upTo hQ hbody (fun count e hle hmax hend => ⟨count, hle, ?_, hend⟩)
        (fun _ hm => Option.mem_some.1 hm ▸ Nat.le_max_left ..) he
      rintro m' hm'
      obtain rfl : m = m' := Option.some.inj (hmost.symm.trans hm')
      exact hmax _ rfl
  · rename_i hmost
    rw [hmost]
    split
    · rename_i hzero
      rw [hzero]
      refine ((hQ 0).all_meet? hr).flatMap fun e he => ?_
      have hend (count : Nat) (e : Reached) (hle : 0 ≤ count) (_ : ∀ m ∈ none, count ≤ m)
          (hend : Q count e) :
          ∃ count, 0 ≤ count ∧ (∀ m ∈ none, count ≤ max 0 m) ∧ Q count e := ⟨count, hle, nofun, hend⟩
      exact all_upTo hQ hbody hend nofun he
    · rename_i least hsucc
      rw [hsucc]
      refine ((htimes least).flatMap fun e he => ?_).distinct
      exact all_oneOrMore hQ hbody (fun count _ hlt hend => ⟨count, hlt, nofun, hend⟩) he

/-! ## Ways to go on -/

section

variable (hQ : Steady Q)
include hQ

/-- Choosing at a spot does not move. -/
theorem Steady.still : Still Q :=
  fun r met hr => hQ r r.cursor met hr (.refl _)

theorem Steady.consume? (k : CharClass) (hr : Q r) : All Q (r.consume? k).toList := by
  intro e he
  have he := Option.mem_toList.1 he
  rw [Reached.consume?] at he
  split at he
  · cases he
  · rename_i d rest hrest
    split at he
    · cases he
      exact hQ r _ _ hr ⟨[d], hrest, rfl, rfl⟩
    · cases he

theorem Steady.ladder (met : List Spot) (least n : Nat) (hr : Q r) :
    All Q (r.ladder met least n) := by
  have hgo : ∀ count cursor, r.cursor.LeadsTo cursor → All Q (ladder.go r met cursor count) := by
    intro count
    induction count with
    | zero => exact fun _ _ => nofun
    | succ count ih =>
      intro cursor hcursor e he
      rcases List.mem_cons.1 he with rfl | he
      · exact hQ r _ _ hr hcursor
      · exact ih _ (hcursor.trans (Cursor.leadsTo_advance cursor 1)) e he
  exact hgo _ _ (Cursor.leadsTo_advance r.cursor least)

theorem Steady.endsOfRun (k : CharClass) (n : Rounds) (spot : Spot) (hr : Q r) :
    All Q (endsOfRun k n spot r) := by
  rw [Reached.endsOfRun]
  split
  · exact (hQ.ladder _ _ _ hr).reverse
  · exact hQ.ladder _ _ _ hr

end

end Reached

open Reached

/-! ## Patterns -/

/-- The groups of a pattern, each with the pattern of what it holds. -/
def parts : Pattern → List (Nat × Pattern)
  | .empty | .one _ | .run _ _ | .place _ => []
  | .seq a b | .either a b => a.parts ++ b.parts
  | .group number a => (number, a) :: a.parts
  | .repeated _ a => a.parts

/-- **A pattern keeps a steady condition** that each of its groups keeps when it is closed. -/
theorem all_ends {Q : Reached → Prop} (hQ : Steady Q) (p : Pattern)
    (hclose : ∀ part ∈ p.parts, ∀ spot r e, e ∈ part.2.ends spot r → Q e →
      Q (e.close part.1 r.cursor)) (spot : Spot) {r : Reached} (hr : Q r) :
    All Q (p.ends spot r) := by
  induction p generalizing spot r with
  | empty => exact all_singleton hr
  | one k => exact hQ.consume? k hr
  | run k n => exact (hQ.still.all_meet? hr).flatMap fun _ => hQ.endsOfRun k n spot
  | place p =>
    rw [ends]
    split
    · exact all_singleton hr
    · exact nofun
  | seq a b iha ihb =>
    obtain ⟨ha, hb⟩ := List.forall_mem_append.1 hclose
    exact ((iha ha _ hr).flatMap fun _ => ihb hb _).distinct
  | either a b iha ihb =>
    obtain ⟨ha, hb⟩ := List.forall_mem_append.1 hclose
    exact (hQ.still.all_meet? hr).flatMap fun _ hr =>
      ((iha ha _ hr).append (ihb hb _ hr)).distinct
  | group number a ih =>
    obtain ⟨hself, ha⟩ := List.forall_mem_cons.1 hclose
    intro e he
    obtain ⟨e', he', rfl⟩ := List.mem_map.1 he
    exact hself _ r e' he' (ih ha _ hr e' he')
  | repeated n a ih =>
    intro e he
    obtain ⟨-, -, -, hend⟩ := all_endsOfRounds (Q := fun _ => Q) (fun _ => hQ.still)
      (fun spot _ _ hr => ih hclose spot hr) a.consumes n spot hr e he
    exact hend

/-- **A pattern goes ahead.** -/
theorem leadsTo_of_mem_ends {p : Pattern} {spot : Spot} {r e : Reached} (h : e ∈ p.ends spot r) :
    r.cursor.LeadsTo e.cursor :=
  all_ends (Q := fun e => r.cursor.LeadsTo e.cursor) (fun _ _ _ hr hnext => hr.trans hnext) p
    (fun _ _ _ _ _ _ he => he) spot (.refl _) e h

/-! ## Searching -/

/-- A match stands in a text: the characters from its position on begin with it. -/
def Match.StandsIn (m : Match) (text : List Char) : Prop :=
  ∃ front back, text = front ++ m.whole.text ++ back ∧ m.whole.start = front.length

section

variable {p : Pattern} {a cursor stop : Cursor} {m : Match} {text : List Char}

/-- A match that was found from a cursor on, and where the search ended: the match and the groups of
one of the ends of the pattern. -/
def FoundFrom (p : Pattern) (a : Cursor) (m : Match) (stop : Cursor) : Prop :=
  ∃ start, a.LeadsTo start ∧ ∃ e ∈ p.ends [] { cursor := start },
    m = ⟨between start e.cursor, e.groups⟩ ∧ stop = e.cursor

theorem FoundFrom.of_leadsTo (h : FoundFrom p cursor m stop) (ha : a.LeadsTo cursor) :
    FoundFrom p a m stop := by
  obtain ⟨start, hstart, hend⟩ := h
  exact ⟨start, ha.trans hstart, hend⟩

theorem FoundFrom.ahead (h : FoundFrom p a m stop) : a.LeadsTo stop := by
  obtain ⟨start, hstart, e, he, -, rfl⟩ := h
  exact hstart.trans (leadsTo_of_mem_ends he)

theorem foundFrom_of_matchAt? (h : p.matchAt? cursor = some (m, stop)) :
    FoundFrom p cursor m stop := by
  obtain ⟨e, he, heq⟩ := Option.map_eq_some_iff.1 h
  cases heq
  exact ⟨cursor, .refl _, e, List.mem_of_mem_head? he, rfl, rfl⟩

theorem foundFrom_of_matchFrom? {before : Option Char} {position : Nat} {rest : List Char}
    (h : p.matchFrom? before position rest = some (m, stop)) :
    FoundFrom p ⟨before, rest, position⟩ m stop := by
  induction rest generalizing before position with
  | nil => exact foundFrom_of_matchAt? h
  | cons d rest ih =>
    rw [matchFrom?] at h
    split at h
    · rename_i found hfound
      cases h
      exact foundFrom_of_matchAt? hfound
    · exact (ih h).of_leadsTo (Cursor.leadsTo_behind before d rest position)

theorem foundFrom_of_nextMatch? {last : Option Nat}
    (h : p.nextMatch? last cursor = some (m, stop)) : FoundFrom p cursor m stop := by
  rw [nextMatch?] at h
  split at h
  · cases h
  · rename_i found stop' hfound
    split at h
    · -- a match of nothing is passed over, and the search goes on behind the next character
      split at h
      · cases h
      · rename_i further hfurther
        exact (foundFrom_of_matchFrom? h).of_leadsTo (Cursor.leadsTo_next? hfurther)
    · cases h
      exact foundFrom_of_matchFrom? hfound

/-- Every further match is found from the place on where the search goes on. Induction on the number
of matches that may still be asked for; the search goes on where the last match ended. -/
theorem foundFrom_of_mem_matchesFrom {fuel : Nat} {last : Option Nat}
    (h : m ∈ p.matchesFrom fuel last cursor) : ∃ stop, FoundFrom p cursor m stop := by
  induction fuel generalizing last cursor with
  | zero => cases h
  | succ fuel ih =>
    rw [matchesFrom] at h
    split at h
    · cases h
    · rename_i found stop hnext
      have hfound := foundFrom_of_nextMatch? hnext
      rcases List.mem_cons.1 h with rfl | h
      · exact ⟨stop, hfound⟩
      · obtain ⟨stop', hfurther⟩ := ih h
        exact ⟨stop', hfurther.of_leadsTo hfound.ahead⟩

/-- **Every match in a text is found from its start on.** -/
theorem foundFrom_of_mem_matchesIn (h : m ∈ p.matchesIn text) :
    ∃ stop, FoundFrom p (Cursor.start text) m stop :=
  foundFrom_of_mem_matchesFrom h

/-- **Every match in a text stands in it.** -/
theorem standsIn_of_mem_matchesIn (h : m ∈ p.matchesIn text) : m.StandsIn text := by
  obtain ⟨-, start, ⟨front, hrest, hposition, -⟩, e, he, rfl, -⟩ := foundFrom_of_mem_matchesIn h
  refine ⟨front, e.cursor.rest, ?_, hposition.trans (Nat.zero_add _)⟩
  rw [List.append_assoc, ← rest_eq_between (leadsTo_of_mem_ends he)]
  exact hrest

end

/-- A text has at most one match more than characters. -/
theorem length_matchesIn_le (p : Pattern) (text : List Char) :
    (p.matchesIn text).length ≤ text.length + 1 := by
  have hfrom : ∀ fuel last cursor, (p.matchesFrom fuel last cursor).length ≤ fuel := by
    intro fuel
    induction fuel with
    | zero => exact fun _ _ => Nat.le_refl 0
    | succ fuel ih =>
      intro last cursor
      rw [matchesFrom]
      split
      · exact Nat.zero_le _
      · exact Nat.succ_le_succ (ih _ _)
  exact hfrom _ _ _

end CodeSnapshot.Pattern
