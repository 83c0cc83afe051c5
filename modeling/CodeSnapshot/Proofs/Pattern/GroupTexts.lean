import CodeSnapshot.Proofs.Pattern.MatchPlaces

/-!
# Group texts — what the groups of a match hold

A group holds what its own pattern consumed. For a group that stands for a run of characters, this
says what the text of the group looks like.

* **`ConsumedBy`** — a piece of a text that a pattern went over; `consumedBy_of_mem_groups` finds for
  each group of a match the part of the pattern that it comes from.
* **`hasAlways`** — a group that no match can do without; `exists_group_of_hasAlways`.
* **`exists_count_of_mem_endsOfRun`** — a run ends behind characters of its class.
* **`groupText?_of_runs`** — the text of a group that stands for a run: at least one character, all
  of them of the class.
-/

namespace CodeSnapshot.Pattern

open Reached

/-! ## Where groups come from -/

/-- A piece of a text that a pattern consumes. -/
def ConsumedBy (p : Pattern) (piece : Piece) : Prop :=
  ∃ spot r, ∃ e ∈ p.ends spot r, piece = between r.cursor e.cursor

/-- All groups at a place hold what the pattern of a group consumed. -/
def Reached.GroupsOf (p : Pattern) (r : Reached) : Prop :=
  ∀ g ∈ r.groups, ∃ a, (g.1, a) ∈ p.parts ∧ ConsumedBy a g.2

section

variable {p : Pattern} {m : Match} {text : List Char} {number : Nat}

/-- **A group holds what its pattern consumed.** -/
theorem consumedBy_of_mem_groups (h : m ∈ p.matchesIn text) :
    ∀ g ∈ m.groups, ∃ a, (g.1, a) ∈ p.parts ∧ ConsumedBy a g.2 := by
  obtain ⟨-, start, -, e, he, rfl, -⟩ := foundFrom_of_mem_matchesIn h
  have hnone : GroupsOf p { cursor := start } := fun _ hg => absurd hg List.not_mem_nil
  -- groups are added where a group ends, and nowhere else
  refine all_ends (Q := GroupsOf p) (fun _ _ _ hr _ => hr) p ?_ [] hnone e he
  intro part hpart spot r e he hgroups g hg
  rcases List.mem_cons.1 hg with rfl | hg
  · exact ⟨part.2, hpart, spot, r, e, he, rfl⟩
  · exact hgroups g hg

/-! ## Groups of every match -/

/-- Whether a pattern does not match without a group: the group stands neither in a repetition nor in
one of several alternatives only. -/
def hasAlways (number : Nat) : Pattern → Bool
  | .empty | .one _ | .run _ _ | .place _ | .repeated _ _ => false
  | .seq a b => a.hasAlways number || b.hasAlways number
  | .either a b => a.hasAlways number && b.hasAlways number
  | .group n a => n == number || a.hasAlways number

/-- A group was closed on the way to a place. -/
def Reached.HasGroup (number : Nat) (r : Reached) : Prop :=
  ∃ piece, (number, piece) ∈ r.groups

theorem hasGroup_of_mem_ends (p : Pattern) (spot : Spot) {r : Reached} (h : r.HasGroup number) :
    All (HasGroup number) (p.ends spot r) := by
  refine all_ends (fun _ _ _ hr _ => hr) p (fun part _ _ r e _ he => ?_) spot h
  obtain ⟨piece, hpiece⟩ := he
  exact ⟨piece, List.mem_cons_of_mem _ hpiece⟩

theorem hasGroup_of_hasAlways (h : p.hasAlways number = true) (spot : Spot) (r : Reached) :
    All (HasGroup number) (p.ends spot r) := by
  induction p generalizing spot r with
  | empty | one | run | place | repeated => cases h
  | seq a b iha ihb =>
    rcases Bool.or_eq_true_iff.1 h with ha | hb
    · -- the second part does not take the group away again
      exact ((iha ha _ r).flatMap fun _ hr => hasGroup_of_mem_ends b _ hr).distinct
    · have hany : All (fun _ => True) (a.ends (0 :: spot) r) := fun _ _ => trivial
      exact (hany.flatMap fun r _ => ihb hb _ r).distinct
  | either a b iha ihb =>
    obtain ⟨ha, hb⟩ := Bool.and_eq_true_iff.1 h
    have hany : All (fun _ => True) (r.meet? spot).toList := fun _ _ => trivial
    exact hany.flatMap fun r _ => ((iha ha _ r).append (ihb hb _ r)).distinct
  | group n a ih =>
    intro e he
    obtain ⟨e', he', rfl⟩ := List.mem_map.1 he
    rcases Bool.or_eq_true_iff.1 h with hn | ha
    · rw [← beq_iff_eq.1 hn]
      exact ⟨_, List.mem_cons_self ..⟩
    · obtain ⟨piece, hpiece⟩ := ih ha _ r e' he'
      exact ⟨piece, List.mem_cons_of_mem _ hpiece⟩

/-- **A match has the groups** that its pattern does not match without. -/
theorem isSome_groupText?_of_hasAlways (h : m ∈ p.matchesIn text)
    (hgroup : p.hasAlways number = true) : (m.groupText? number).isSome := by
  obtain ⟨-, start, -, e, he, rfl, -⟩ := foundFrom_of_mem_matchesIn h
  obtain ⟨piece, hpiece⟩ := hasGroup_of_hasAlways hgroup [] { cursor := start } e he
  rw [Match.groupText?, Match.group?, Option.isSome_map, Option.isSome_map, List.find?_isSome]
  exact ⟨_, hpiece, beq_self_eq_true number⟩

end

/-! ## Runs -/

namespace Cursor

theorem advance_advance (c : Cursor) (m n : Nat) : (c.advance m).advance n = c.advance (m + n) := by
  fun_induction advance c m with
  | case1 c => rw [Nat.zero_add]
  | case2 before position m =>
    rw [Nat.succ_add_eq_add_succ]
    cases n <;> rfl
  | case3 before d rest position m ih =>
    rw [ih, Nat.succ_add]
    rfl

theorem position_advance {c : Cursor} {n : Nat} (h : n ≤ c.rest.length) :
    (c.advance n).position = c.position + n := by
  fun_induction advance c n with
  | case1 c => rfl
  | case2 before position n => exact absurd h (Nat.not_succ_le_zero n)
  | case3 before d rest position n ih =>
    rw [ih (Nat.le_of_succ_le_succ h)]
    exact Nat.succ_add_eq_add_succ position n

end Cursor

section

variable {k : CharClass} {n : Rounds} {spot : Spot} {r e : Reached}

theorem runLength_le (k : CharClass) (limit : Option Nat) (text : List Char) :
    runLength k limit text ≤ text.length ∧
      ∀ c ∈ text.take (runLength k limit text), k.contains c = true := by
  fun_induction runLength k limit text with
  | case1 text => exact ⟨Nat.zero_le _, nofun⟩
  | case2 limit => exact ⟨Nat.le_refl _, nofun⟩
  | case3 limit c text hlimit hc ih =>
    refine ⟨Nat.succ_le_succ ih.1, fun d hd => ?_⟩
    rcases List.mem_cons.1 hd with rfl | hd
    · exact hc
    · exact ih.2 d hd
  | case4 limit c text hlimit hc => exact ⟨Nat.zero_le _, nofun⟩

/-- **The ends of a run** are behind some of the characters that it could go over. -/
theorem exists_count_of_mem_endsOfRun (h : e ∈ endsOfRun k n spot r) :
    ∃ count, n.least ≤ count ∧ count ≤ runLength k n.most r.cursor.rest ∧
      e.cursor = r.cursor.advance count := by
  -- one step at a time from the least number of characters on
  have hgo (met : List Spot) (count : Nat) (cursor : Cursor)
      (he : e ∈ ladder.go r met cursor count) :
      ∃ i, i < count ∧ e.cursor = cursor.advance i := by
    induction count generalizing cursor with
    | zero => cases he
    | succ count ih =>
      rcases List.mem_cons.1 he with rfl | he
      · exact ⟨0, Nat.succ_pos _, rfl⟩
      · obtain ⟨i, hi, hcursor⟩ := ih _ he
        refine ⟨i + 1, Nat.succ_lt_succ hi, ?_⟩
        rw [hcursor, Cursor.advance_advance, Nat.add_comm]
  have hladder (met : List Spot) (most : Nat) (he : e ∈ r.ladder met n.least most) :
      ∃ count, n.least ≤ count ∧ count ≤ most ∧ e.cursor = r.cursor.advance count := by
    obtain ⟨i, hi, hcursor⟩ := hgo met _ _ he
    refine ⟨n.least + i, Nat.le_add_right .., by omega, ?_⟩
    rw [hcursor, Cursor.advance_advance]
  rw [endsOfRun] at h
  split at h
  · exact hladder _ _ (List.mem_reverse.1 h)
  · exact hladder _ _ h

/-- **What a run consumes**: as many characters as are asked for at least, all of the class. -/
theorem ConsumedBy.run {piece : Piece} (h : ConsumedBy (.run k n) piece) :
    n.least ≤ piece.text.length ∧ ∀ c ∈ piece.text, k.contains c = true := by
  obtain ⟨spot, r, e, he, rfl⟩ := h
  obtain ⟨r', hr', he⟩ := List.mem_flatMap.1 he
  have hcursor : r'.cursor = r.cursor := by
    have hmeet := Option.mem_toList.1 hr'
    rw [meet?] at hmeet
    split at hmeet
    · cases hmeet
    · cases hmeet
      rfl
  obtain ⟨count, hleast, hmost, hend⟩ := exists_count_of_mem_endsOfRun he
  rw [hcursor] at hmost hend
  obtain ⟨hlength, hclass⟩ := runLength_le k n.most r.cursor.rest
  have htext : (between r.cursor e.cursor).text = r.cursor.rest.take count := by
    rw [between, hend, Cursor.position_advance (Nat.le_trans hmost hlength),
      Nat.add_sub_cancel_left]
  rw [htext, List.length_take]
  refine ⟨by omega, fun c hc => hclass c ?_⟩
  exact (List.take_prefix_take_left hmost).subset hc

end

/-- **The text of a group that stands for a run.** -/
theorem groupText?_of_runs {p : Pattern} {m : Match} {text held : List Char} {number : Nat}
    {k : CharClass} (h : m ∈ p.matchesIn text)
    (hparts : ∀ part ∈ p.parts, part.1 = number → part.2 = many1 k)
    (hheld : m.groupText? number = some held) :
    held ≠ [] ∧ ∀ c ∈ held, k.contains c = true := by
  obtain ⟨piece, hpiece, rfl⟩ := Option.map_eq_some_iff.1 hheld
  obtain ⟨g, hg, rfl⟩ := Option.map_eq_some_iff.1 hpiece
  obtain ⟨a, ha, hconsumed⟩ := consumedBy_of_mem_groups h g (List.mem_of_find?_eq_some hg)
  have hnumber : g.1 = number := by simpa using List.find?_some hg
  rw [show a = many1 k from hparts _ ha hnumber] at hconsumed
  obtain ⟨hleast, hclass⟩ := hconsumed.run
  exact ⟨List.ne_nil_of_length_pos hleast, hclass⟩

end CodeSnapshot.Pattern
