import CodeSnapshot.Proofs.Pattern.PreferredEnds

/-!
# Settled places — which matches of a text start at a given place

The matches of a text are found one behind the other, and none reaches into the next. So what a pattern
finds at a place depends on the matches before: one that reaches over the place hides it. Where none
does, the match there is the preferred one.

* **`ne_nil_of_consumes`** — a pattern that consumes characters takes no empty piece.
* **`FoundFrom.exists_takes`**, **`exists_takes_of_mem_matchesIn`** — a match as a piece of the text.
* **`Settled`** — no match that begins before a place reaches over it.
* **`filter_matchesIn`** — the headline: what starts at a settled place, of all the matches in a text.
-/

namespace CodeSnapshot.Pattern

open Reached

variable {p : Pattern} {front piece rest text : List Char} {m : Match} {stop : Cursor}

/-! ## Matches as pieces of a text -/

/-- **A pattern that consumes characters** takes no empty piece. -/
theorem ne_nil_of_consumes (hp : p.consumes = true) (h : p.Takes front piece rest) : piece ≠ [] := by
  induction p generalizing front piece rest with
  | empty => cases hp
  | place => cases hp
  | one k =>
    obtain ⟨c, rfl, -⟩ := h
    exact List.cons_ne_nil c []
  | run k n =>
    obtain ⟨hleast, -⟩ := h
    exact List.length_pos_iff.1 (Nat.lt_of_lt_of_le (of_decide_eq_true hp) hleast)
  | seq a b iha ihb =>
    obtain ⟨first, second, rfl, ha, hb⟩ := h
    rcases Bool.or_eq_true_iff.1 hp with hp | hp
    · exact List.append_ne_nil_of_left_ne_nil (iha hp ha) second
    · exact List.append_ne_nil_of_right_ne_nil first (ihb hp hb)
  | either a b iha ihb =>
    obtain ⟨hpa, hpb⟩ := Bool.and_eq_true_iff.1 hp
    rcases h with ha | hb
    · exact iha hpa ha
    · exact ihb hpb hb
  | group number a ih => exact ih hp h
  | repeated n a ih =>
    obtain ⟨hleast, ha⟩ := Bool.and_eq_true_iff.1 hp
    obtain ⟨count, hcount, -, hrounds⟩ := h
    cases count with
    | zero => exact absurd hcount (Nat.not_le_of_gt (of_decide_eq_true hleast))
    | succ count =>
      obtain ⟨earlier, last, rfl, -, hlast⟩ := hrounds
      exact List.append_ne_nil_of_right_ne_nil earlier (ih ha hlast)

theorem Cursor.leadsTo_behind_iff {c : Cursor} :
    (Cursor.behind front text).LeadsTo c ↔
      ∃ skipped rest, text = skipped ++ rest ∧ c = .behind (front ++ skipped) rest := by
  constructor
  · rintro ⟨skipped, hrest, hposition, hbefore⟩
    refine ⟨skipped, c.rest, hrest, ?_⟩
    obtain ⟨before, rest, position⟩ := c
    rw [behind, Cursor.mk.injEq, List.getLast?_append, List.length_append]
    exact ⟨hbefore, rfl, hposition⟩
  · rintro ⟨skipped, rest, rfl, rfl⟩
    exact ⟨skipped, rfl, List.length_append .., List.getLast?_append ..⟩

/-- **A match that was found** is a piece of the text that the pattern takes. -/
theorem FoundFrom.exists_takes (h : FoundFrom p (.behind front text) m stop) :
    ∃ skipped piece rest, text = skipped ++ (piece ++ rest) ∧
      m.whole = ⟨(front ++ skipped).length, piece⟩ ∧
      stop = .behind (front ++ skipped ++ piece) rest ∧ p.Takes (front ++ skipped) piece rest := by
  obtain ⟨start, hstart, e, he, rfl, rfl⟩ := h
  obtain ⟨skipped, behind, rfl, rfl⟩ := Cursor.leadsTo_behind_iff.1 hstart
  obtain ⟨piece, rest, rfl, hcursor, htakes⟩ := takes_of_mem_ends p [] rfl e he
  refine ⟨skipped, piece, rest, rfl, ?_, hcursor, htakes⟩
  rw [hcursor]
  exact between_behind (front ++ skipped) piece rest

theorem exists_takes_of_mem_matchesIn (h : m ∈ p.matchesIn text) :
    ∃ front piece rest, text = front ++ (piece ++ rest) ∧ m.whole = ⟨front.length, piece⟩ ∧
      p.Takes front piece rest := by
  obtain ⟨stop, hfound⟩ := foundFrom_of_mem_matchesIn h
  have hstart : FoundFrom p (.behind [] text) m stop := hfound
  obtain ⟨front, piece, rest, htext, hwhole, -, htakes⟩ := hstart.exists_takes
  exact ⟨front, piece, rest, htext, hwhole, htakes⟩

/-! ## Searching on -/

theorem Cursor.LeadsTo.position_le {a b : Cursor} (h : a.LeadsTo b) : a.position ≤ b.position := by
  obtain ⟨front, -, hposition, -⟩ := h
  exact hposition ▸ Nat.le_add_right ..

theorem FoundFrom.position_le {a : Cursor} (h : FoundFrom p a m stop) :
    a.position ≤ m.whole.start := by
  obtain ⟨start, hstart, e, -, rfl, -⟩ := h
  exact hstart.position_le

/-- No match of nothing has to be passed over. -/
theorem nextMatch?_of_consumes (hp : p.consumes = true) (last : Option Nat) :
    p.nextMatch? last (.behind front text) = p.search? (.behind front text) := by
  rw [nextMatch?]
  cases hsearch : p.search? (.behind front text) with
  | none => rfl
  | some found =>
    obtain ⟨_, piece, _, -, hwhole, -, htakes⟩ :=
      FoundFrom.exists_takes (foundFrom_of_matchFrom? hsearch)
    have hfilled : found.1.whole.text.isEmpty = false := by
      rw [hwhole]
      exact List.isEmpty_eq_false_iff.2 (ne_nil_of_consumes hp htakes)
    dsimp only
    rw [hfilled, Bool.false_and]
    rfl

/-- A match at the place where the search goes on comes first. -/
theorem matchesFrom_of_matchAt? (hp : p.consumes = true) (fuel : Nat) (last : Option Nat)
    (h : p.matchAt? (.behind front text) = some (m, stop)) :
    p.matchesFrom (fuel + 1) last (.behind front text) =
      m :: p.matchesFrom fuel (some stop.position) stop := by
  have hsearch : p.search? (.behind front text) = some (m, stop) := by
    cases text with
    | nil => exact h
    | cons c text =>
      show p.matchFrom? front.getLast? front.length (c :: text) = _
      rw [matchFrom?, show p.matchAt? ⟨front.getLast?, c :: text, front.length⟩ = _ from h]
  rw [matchesFrom, nextMatch?_of_consumes hp, hsearch]

/-- A place without a match is passed over. -/
theorem matchesFrom_of_matchAt?_none (hp : p.consumes = true) (fuel : Nat) (last : Option Nat) {c : Char}
    (h : p.matchAt? (.behind front (c :: text)) = none) :
    p.matchesFrom fuel last (.behind front (c :: text)) =
      p.matchesFrom fuel last (.behind (front ++ [c]) text) := by
  have hsearch : p.search? (.behind front (c :: text)) = p.search? (.behind (front ++ [c]) text) := by
    show p.matchFrom? front.getLast? front.length (c :: text) = _
    rw [matchFrom?, show p.matchAt? ⟨front.getLast?, c :: text, front.length⟩ = _ from h, search?,
      Cursor.behind, List.getLast?_concat, List.length_append]
    rfl
  cases fuel with
  | zero => rfl
  | succ fuel =>
    rw [matchesFrom, matchesFrom, nextMatch?_of_consumes hp, nextMatch?_of_consumes hp, hsearch]

/-- No match starts before the place where the search goes on. -/
theorem filter_matchesFrom_eq_nil {fuel : Nat} {last : Option Nat} {cursor : Cursor}
    (h : front.length < cursor.position) :
    (p.matchesFrom fuel last cursor).filter (·.whole.start = front.length) = [] := by
  refine List.filter_eq_nil_iff.2 fun m hm => ?_
  obtain ⟨stop, hfound⟩ := foundFrom_of_mem_matchesFrom hm
  have hle := hfound.position_le
  rw [decide_eq_true_eq]
  omega

/-! ## Settled places -/

/-- No match that begins in the front part of a text reaches over its end. -/
def Settled (p : Pattern) (front rest : List Char) : Prop :=
  ∀ first second piece rest', front = first ++ second → second ≠ [] →
    second ++ rest = piece ++ rest' → p.Takes first piece rest' → piece.length ≤ second.length

/-- A match in front of a settled place leaves some of the text up to it. -/
theorem Settled.exists_left (h : p.Settled front rest) {first second piece rest' : List Char}
    (hfront : front = first ++ second) (hne : second ≠ []) (htext : second ++ rest = piece ++ rest')
    (htakes : p.Takes first piece rest') :
    ∃ left, second = piece ++ left ∧ rest' = left ++ rest := by
  have hle := h first second piece rest' hfront hne htext htakes
  rcases List.append_eq_append_iff.1 htext with ⟨gap, hpiece, hrest⟩ | ⟨left, hsecond, hrest'⟩
  · -- the match would reach over the place
    have hlength := congrArg List.length hpiece
    rw [List.length_append] at hlength
    obtain rfl := List.length_eq_zero_iff.1 (show gap.length = 0 by omega)
    rw [List.append_nil] at hpiece
    exact ⟨[], by rw [List.append_nil, hpiece], hrest.symm⟩
  · exact ⟨left, hsecond, hrest'⟩

/-- What starts at the place where the search goes on. -/
theorem filter_matchesFrom (hp : p.consumes = true) (fuel : Nat) (last : Option Nat) :
    (p.matchesFrom (fuel + 1) last (.behind front rest)).filter (·.whole.start = front.length) =
      ((p.matchAt? (.behind front rest)).map (·.1)).toList := by
  cases hat : p.matchAt? (.behind front rest) with
  | some found =>
    obtain ⟨m, stop⟩ := found
    obtain ⟨hstart, piece, rest', -, rfl, htakes⟩ := takes_of_matchAt? hat
    have hahead : front.length < (Cursor.behind (front ++ piece) rest').position := by
      have hpos := List.length_pos_iff.2 (ne_nil_of_consumes hp htakes)
      show front.length < (front ++ piece).length
      rw [List.length_append]
      omega
    rw [matchesFrom_of_matchAt? hp fuel last hat,
      List.filter_cons_of_pos (by simpa using hstart), filter_matchesFrom_eq_nil hahead]
    rfl
  | none =>
    cases rest with
    | nil =>
      rw [matchesFrom, nextMatch?_of_consumes hp,
        show p.search? (.behind front []) = none from hat]
      rfl
    | cons c rest =>
      rw [matchesFrom_of_matchAt?_none hp _ last hat, filter_matchesFrom_eq_nil]
      · rfl
      · show front.length < (front ++ [c]).length
        rw [List.length_append]
        exact Nat.lt_succ_self _

/-- **The match that starts at a settled place** of a text, of all its matches, is the preferred one.
Induction on what is left in front of the place: it gets shorter by a match, which ends there at the
latest, or by a character that no match begins with. -/
theorem filter_matchesIn (hp : p.consumes = true) (h : p.Settled front rest) :
    (p.matchesIn (front ++ rest)).filter (·.whole.start = front.length) =
      ((p.matchAt? (.behind front rest)).map (·.1)).toList := by
  have hfrom (n : Nat) : ∀ first second fuel last, second.length ≤ n → n ≤ fuel →
      front = first ++ second →
      (p.matchesFrom (fuel + 1) last (.behind first (second ++ rest))).filter
          (·.whole.start = front.length) =
        ((p.matchAt? (.behind front rest)).map (·.1)).toList := by
    induction n with
    | zero =>
      intro first second fuel last hshort _ hfront
      obtain rfl := List.length_eq_zero_iff.1 (Nat.le_zero.1 hshort)
      rw [List.append_nil] at hfront
      rw [List.nil_append, ← hfront]
      exact filter_matchesFrom hp fuel last
    | succ n ih =>
      intro first second fuel last hshort hfuel hfront
      cases second with
      | nil =>
        rw [List.append_nil] at hfront
        rw [List.nil_append, ← hfront]
        exact filter_matchesFrom hp fuel last
      | cons c second =>
        obtain ⟨fuel, rfl⟩ : ∃ more, fuel = more + 1 := ⟨fuel - 1, by omega⟩
        rw [List.length_cons] at hshort
        cases hat : p.matchAt? (.behind first (c :: second ++ rest)) with
        | none =>
          rw [List.cons_append] at hat ⊢
          rw [matchesFrom_of_matchAt?_none hp _ last hat]
          exact ih (first ++ [c]) second (fuel + 1) last (by omega) (by omega)
            (hfront.trans (List.append_cons ..))
        | some found =>
          obtain ⟨m, stop⟩ := found
          obtain ⟨hstart, piece, rest', htext, rfl, htakes⟩ := takes_of_matchAt? hat
          obtain ⟨left, hsecond, rfl⟩ :=
            h.exists_left hfront (List.cons_ne_nil c second) htext htakes
          have hpos := List.length_pos_iff.2 (ne_nil_of_consumes hp htakes)
          have hlength := congrArg List.length hsecond
          rw [List.length_cons, List.length_append] at hlength
          rw [matchesFrom_of_matchAt? hp _ last hat, List.filter_cons_of_neg]
          · exact ih (first ++ piece) left fuel _ (by omega) (by omega)
              (by rw [hfront, hsecond, List.append_assoc])
          · -- it starts before the place
            have hbefore := congrArg List.length hfront
            rw [List.length_append, List.length_cons] at hbefore
            rw [decide_eq_true_eq]
            omega
  exact hfrom front.length [] front (front ++ rest).length none (Nat.le_refl _)
    (by rw [List.length_append]; exact Nat.le_add_right ..) rfl

end CodeSnapshot.Pattern
