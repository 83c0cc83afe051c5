import CodeSnapshot.Proofs.Pattern.GroupTexts

/-!
# Taken texts — what a pattern can take from where it stands

What a pattern means, without the order in which the matching tries things: behind one part of a text
it takes a piece and leaves the rest. The matching goes nowhere else, so that a pattern that can take
nothing of a text has no match there.

* **`Takes`** — what each kind of pattern takes; `InRounds` counts the rounds of a repetition.
* **`takes_of_mem_ends`** — the headline: every end of a pattern lies behind a piece that it takes.
* **`takesAll_of_chain`**, **`takes_maybe`**, **`eq_of_takes_word`** — what is taken by the patterns that
  others are put together from.
* **`matchAt?_eq_none`** — where nothing can be taken, there is no match.
-/

namespace CodeSnapshot.Pattern

open Reached

/-! ## What is taken -/

/-- So many rounds, one after the other. -/
def InRounds (round : List Char → List Char → List Char → Prop) :
    (count : Nat) → (front piece rest : List Char) → Prop
  | 0, _, piece, _ => piece = []
  | count + 1, front, piece, rest =>
    ∃ earlier last, piece = earlier ++ last ∧ InRounds round count front earlier (last ++ rest) ∧
      round (front ++ earlier) last rest

/-- A pattern that stands behind `front` takes `piece` and leaves `rest`. -/
def Takes : Pattern → (front piece rest : List Char) → Prop
  | .empty, _, piece, _ => piece = []
  | .one k, _, piece, _ => ∃ c, piece = [c] ∧ k.contains c = true
  | .run k n, _, piece, _ =>
    n.least ≤ piece.length ∧ (∀ m ∈ n.most, piece.length ≤ m) ∧ ∀ c ∈ piece, k.contains c = true
  | .place p, front, piece, rest => piece = [] ∧ p.holdsAt (.behind front rest) = true
  | .seq a b, front, piece, rest =>
    ∃ first second, piece = first ++ second ∧ a.Takes front first (second ++ rest) ∧
      b.Takes (front ++ first) second rest
  | .either a b, front, piece, rest => a.Takes front piece rest ∨ b.Takes front piece rest
  | .group _ a, front, piece, rest => a.Takes front piece rest
  | .repeated n a, front, piece, rest =>
    ∃ count, n.least ≤ count ∧ (∀ m ∈ n.most, count ≤ max n.least m) ∧
      InRounds a.Takes count front piece rest

/-- One pattern after the other. -/
def TakesAll : List Pattern → (front piece rest : List Char) → Prop
  | [], _, piece, _ => piece = []
  | p :: ps, front, piece, rest =>
    ∃ first second, piece = first ++ second ∧ p.Takes front first (second ++ rest) ∧
      TakesAll ps (front ++ first) second rest

section

variable {p a : Pattern} {ps : List Pattern} {front piece rest : List Char}

theorem takesAll_of_chain (h : (chain ps).Takes front piece rest) : TakesAll ps front piece rest := by
  -- what stands in front is one pattern already
  have hgo (p : Pattern) (ps : List Pattern) (h : (ps.foldl .seq p).Takes front piece rest) :
      TakesAll (p :: ps) front piece rest := by
    induction ps generalizing p with
    | nil => exact ⟨piece, [], (List.append_nil piece).symm, h, rfl⟩
    | cons q ps ih =>
      obtain ⟨-, third, rfl, ⟨first, second, rfl, hp, hq⟩, hps⟩ := ih (.seq p q) h
      rw [← List.append_assoc] at hp hps
      exact ⟨first, second ++ third, List.append_assoc .., hp, second, third, rfl, hq, hps⟩
  cases ps with
  | nil => exact h
  | cons p ps => exact hgo p ps h

theorem takes_maybe (h : (maybe a).Takes front piece rest) :
    piece = [] ∨ a.Takes front piece rest := by
  obtain ⟨count, -, hmost, hrounds⟩ := h
  match count, hmost 1 rfl with
  | 0, _ => exact .inl hrounds
  | 1, _ =>
    obtain ⟨-, last, rfl, rfl, hlast⟩ := hrounds
    rw [List.append_nil] at hlast
    exact .inr hlast

theorem eq_of_takes_word {w : String} (h : (word w).Takes front piece rest) : piece = w.toList := by
  have hall (cs : List Char) (front piece : List Char)
      (h : TakesAll (cs.map fun c => .one (CharClass.single c)) front piece rest) : piece = cs := by
    induction cs generalizing front piece with
    | nil => exact h
    | cons c cs ih =>
      obtain ⟨-, second, rfl, ⟨d, rfl, hd⟩, hcs⟩ := h
      rw [CharClass.contains_single, beq_iff_eq] at hd
      rw [ih _ _ hcs, hd]
      rfl
  exact hall _ _ _ (takesAll_of_chain h)

end

/-! ## The ends of a pattern -/

section

variable {k : CharClass} {front text : List Char}

theorem Cursor.advance_behind {n : Nat} (h : n ≤ text.length) :
    (Cursor.behind front text).advance n = .behind (front ++ text.take n) (text.drop n) := by
  induction n generalizing front text with
  | zero => rw [List.take_zero, List.drop_zero, List.append_nil]; rfl
  | succ n ih =>
    cases text with
    | nil => exact absurd h (Nat.not_succ_le_zero n)
    | cons c text =>
      have hnext : (Cursor.behind front (c :: text)).advance (n + 1) =
          (Cursor.behind (front ++ [c]) text).advance n := by
        rw [behind, behind, List.getLast?_append, List.length_append]
        rfl
      rw [hnext, ih (Nat.le_of_succ_le_succ h), List.append_assoc]
      rfl

theorem runLength_le_limit {k : CharClass} {limit : Option Nat} {text : List Char} :
    ∀ m ∈ limit, runLength k limit text ≤ m := by
  fun_induction runLength k limit text with
  | case1 | case2 | case4 => exact fun _ _ => Nat.zero_le _
  | case3 limit c text hlimit hc ih =>
    rintro m rfl
    have hpos : m ≠ 0 := fun hzero => hlimit (hzero ▸ rfl)
    have hle := ih (m - 1) rfl
    omega

theorem Reached.still_cursor (c : Cursor) : Still fun r => r.cursor = c := fun _ _ h => h

/-- Behind a piece of the text that `taking` allows. -/
def Reached.Past (taking : List Char → List Char → List Char → Prop) (front text : List Char)
    (e : Reached) : Prop :=
  ∃ piece rest, text = piece ++ rest ∧ e.cursor = .behind (front ++ piece) rest ∧
    taking front piece rest

/-- **The matching goes where the pattern leads.** Every end of a pattern lies behind a piece that it
takes. -/
theorem takes_of_mem_ends (p : Pattern) (spot : Spot) {r : Reached}
    (hr : r.cursor = .behind front text) : All (Past p.Takes front text) (p.ends spot r) := by
  induction p generalizing spot r front text with
  | empty => exact all_singleton ⟨[], text, rfl, by rw [List.append_nil, hr], rfl⟩
  | one k =>
    intro e he
    have hnext := Option.mem_toList.1 he
    rw [consume?, hr] at hnext
    cases text with
    | nil => cases hnext
    | cons c text =>
      obtain ⟨hc, heq⟩ := Option.ite_none_right_eq_some.1 hnext
      refine ⟨[c], text, rfl, ?_, c, rfl, hc⟩
      rw [← Option.some.inj heq, Cursor.behind, List.getLast?_append, List.length_append]
      rw [position, hr]
      rfl
  | run k n =>
    refine ((still_cursor _).all_meet? hr).flatMap fun r hr e he => ?_
    obtain ⟨count, hleast, hcount, hcursor⟩ := exists_count_of_mem_endsOfRun he
    rw [hr] at hcount hcursor
    obtain ⟨hlength, hclass⟩ := runLength_le k n.most text
    have hle : count ≤ text.length := Nat.le_trans hcount hlength
    have htaken : (text.take count).length = count := List.length_take_of_le hle
    refine ⟨text.take count, text.drop count, (List.take_append_drop ..).symm,
      hcursor.trans (Cursor.advance_behind hle), ?_, ?_, fun c hc => ?_⟩
    · rwa [htaken]
    · rw [htaken]
      exact fun m hm => Nat.le_trans hcount (runLength_le_limit m hm)
    · exact hclass c ((List.take_prefix_take_left hcount).subset hc)
  | place p =>
    rw [ends]
    split
    · rename_i hplace
      exact all_singleton ⟨[], text, rfl, by rw [List.append_nil, hr], rfl, hr ▸ hplace⟩
    · exact all_nil _
  | seq a b iha ihb =>
    refine ((iha _ hr).flatMap fun r hpast e he => ?_).distinct
    obtain ⟨first, rest, rfl, hcursor, ha⟩ := hpast
    obtain ⟨second, rest, rfl, hend, hb⟩ := ihb _ hcursor e he
    exact ⟨first ++ second, rest, (List.append_assoc ..).symm, List.append_assoc .. ▸ hend, first,
      second, rfl, ha, hb⟩
  | either a b iha ihb =>
    refine ((still_cursor _).all_meet? hr).flatMap fun r hr => (All.append ?_ ?_).distinct
    · intro e he
      obtain ⟨piece, rest, htext, hcursor, ha⟩ := iha _ hr e he
      exact ⟨piece, rest, htext, hcursor, .inl ha⟩
    · intro e he
      obtain ⟨piece, rest, htext, hcursor, hb⟩ := ihb _ hr e he
      exact ⟨piece, rest, htext, hcursor, .inr hb⟩
  | group number a ih =>
    intro e he
    obtain ⟨e', he', rfl⟩ := List.mem_map.1 he
    exact ih _ hr e' he'
  | repeated n a ih =>
    have hstart : Past (InRounds a.Takes 0) front text r :=
      ⟨[], text, rfl, by rw [List.append_nil, hr], rfl⟩
    have hround : Body.Counts (fun count => Past (InRounds a.Takes count) front text) a.ends := by
      rintro spot count r ⟨earlier, rest, rfl, hcursor, hrounds⟩ e he
      obtain ⟨last, rest, rfl, hend, hlast⟩ := ih spot hcursor e he
      exact ⟨earlier ++ last, rest, (List.append_assoc ..).symm, List.append_assoc .. ▸ hend,
        earlier, last, rfl, hrounds, hlast⟩
    intro e he
    obtain ⟨count, hleast, hmost, piece, rest, htext, hcursor, hrounds⟩ :=
      all_endsOfRounds (fun _ _ _ h => h) hround a.consumes n spot hstart e he
    exact ⟨piece, rest, htext, hcursor, count, hleast, hmost, hrounds⟩

/-- The preferred match at a place goes over a piece that the pattern takes. -/
theorem takes_of_matchAt? {p : Pattern} {m : Match} {stop : Cursor}
    (h : p.matchAt? (.behind front text) = some (m, stop)) :
    m.whole.start = front.length ∧ ∃ piece rest, text = piece ++ rest ∧
      stop = .behind (front ++ piece) rest ∧ p.Takes front piece rest := by
  obtain ⟨e, he, heq⟩ := Option.map_eq_some_iff.1 h
  obtain ⟨rfl, rfl⟩ := Prod.mk.inj heq
  exact ⟨rfl, takes_of_mem_ends p [] rfl e (List.mem_of_mem_head? he)⟩

/-- **No match where nothing can be taken.** -/
theorem matchAt?_eq_none {p : Pattern}
    (h : ∀ piece rest, text = piece ++ rest → ¬ p.Takes front piece rest) :
    p.matchAt? (.behind front text) = none := by
  rw [matchAt?, Option.map_eq_none_iff, List.head?_eq_none_iff, List.eq_nil_iff_forall_not_mem]
  intro e he
  obtain ⟨piece, rest, htext, -, htakes⟩ := takes_of_mem_ends p [] rfl e he
  exact h piece rest htext htakes

end

end CodeSnapshot.Pattern
