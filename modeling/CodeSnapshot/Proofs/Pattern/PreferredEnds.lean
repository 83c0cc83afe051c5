import CodeSnapshot.Proofs.Pattern.TakenTexts

/-!
# Preferred ends — the match that wins

Of all the ends that a pattern can have from a place on, the first one is the match. It is told without
the lists of ends that the matching works with: from a place where none of the alternatives of the
pattern was met, each part of the pattern has a first end, and the next part goes on from there.

* **`Fresh`**, **`MeetsWithin`** — which alternatives were met before, and which are met on the way.
* **`Prefers`** — the piece that a pattern takes in its first end, and what its groups hold then; a lemma
  for each kind of pattern that statements are made of, and `PrefersAll` for one after the other.
* **`matchAt?_of_prefers`** — the headline: what a pattern prefers is its match.
-/

namespace CodeSnapshot.Pattern

open Reached

/-! ## First ends -/

namespace Reached

section

variable {found rs : List Reached} {r e : Reached} {f : Reached → List Reached}

theorem suffix_note (found : List Reached) (r : Reached) : found <:+ note found r := by
  rw [note]
  split
  · exact List.suffix_rfl
  · exact List.suffix_cons r found

theorem getLast?_of_suffix (h : [r] <:+ rs) : rs.getLast? = some r := by
  obtain ⟨front, rfl⟩ := h
  exact List.getLast?_concat

/-- What is reached first stays first. -/
theorem head?_distinct (rs : List Reached) : (distinct rs).head? = rs.head? := by
  cases rs with
  | nil => rfl
  | cons r rs =>
    have hkept : [r] <:+ rs.foldl note [r] :=
      List.foldlRecOn (motive := ([r] <:+ ·)) rs note List.suffix_rfl
        fun found hfound e _ => hfound.trans (suffix_note found e)
    rw [distinct, List.head?_reverse]
    exact getLast?_of_suffix hkept

theorem head?_flatMap (hr : rs.head? = some r) (he : (f r).head? = some e) :
    (rs.flatMap f).head? = some e := by
  obtain ⟨more, rfl⟩ := List.head?_eq_some_iff.1 hr
  rw [List.flatMap_cons, List.head?_append, he, Option.some_or]

/-- What is done with an end of a round; `fuel` and `rest` are for the rounds behind it. -/
def turn (loop : Loop) (fuel : Nat) (rest : Option Nat) (w : Walk) (e : Reached) : Walk :=
  if w.ended.contains (e.position, rest) then w
  else
    let w := { w with ended := (e.position, rest) :: w.ended }
    match e.meet? (loop.choice rest) with
    | none => w
    | some e =>
      if loop.greedy then
        let w := explore loop fuel rest e w
        { w with found := note w.found e }
      else explore loop fuel rest e { w with found := note w.found e }

theorem explore_succ (loop : Loop) (fuel : Nat) (left : Option Nat) (r : Reached) (w : Walk) :
    explore loop (fuel + 1) left r w =
      if left = some 0 || w.begun.contains (r.position, left) then w
      else (loop.body (loop.round left) r).foldl (turn loop fuel (left.map (· - 1)))
        { w with begun := (r.position, left) :: w.begun } := by
  rw [explore]
  rfl

/-- A walk only adds to what was found, and so does each of its turns. -/
theorem suffix_turn {loop : Loop} {fuel : Nat}
    (h : ∀ left r w, w.found <:+ (explore loop fuel left r w).found) (rest : Option Nat) (w : Walk)
    (e : Reached) : w.found <:+ (turn loop fuel rest w e).found := by
  rw [turn]
  split
  · exact List.suffix_rfl
  · dsimp only
    split
    · exact List.suffix_rfl
    · rename_i e' _
      split
      · exact (h rest e' { w with ended := (e.position, rest) :: w.ended }).trans (suffix_note _ e')
      · exact (suffix_note w.found e').trans
          (h rest e' { w with ended := (e.position, rest) :: w.ended, found := note w.found e' })

theorem suffix_explore (loop : Loop) (fuel : Nat) (left : Option Nat) (r : Reached) (w : Walk) :
    w.found <:+ (explore loop fuel left r w).found := by
  induction fuel generalizing left r w with
  | zero => exact List.suffix_rfl
  | succ fuel ih =>
    rw [explore_succ]
    split
    · exact List.suffix_rfl
    · exact List.foldlRecOn (motive := fun w' : Walk => w.found <:+ w'.found) _ _ List.suffix_rfl
        fun w' hw e _ => hw.trans (suffix_turn ih _ w' e)

/-- **A round that may be left out** is preferred if it has an end from which the choice behind it can
be made; the place before it is what is left. -/
theorem head?_upTo_one {loop : Loop} (hgreedy : loop.greedy = true) (r : Reached) :
    (loop.body (loop.round (some 1)) r = [] → (upTo loop (some 1) r).head? = some r) ∧
      ∀ e e', (loop.body (loop.round (some 1)) r).head? = some e →
        e.meet? (loop.choice (some 0)) = some e' → (upTo loop (some 1) r).head? = some e' := by
  have hunfold : (upTo loop (some 1) r).head? =
      (note (((loop.body (loop.round (some 1)) r).foldl (turn loop 1 (some 0))
        { begun := [(r.position, some 1)] }).found) r).getLast? := by
    rw [upTo, if_pos hgreedy, List.head?_reverse]
    rfl
  rw [hunfold]
  refine ⟨fun hbody => by rw [hbody]; rfl, fun e e' hbody hmeet => ?_⟩
  obtain ⟨more, hends⟩ := List.head?_eq_some_iff.1 hbody
  have hfirst : (turn loop 1 (some 0) { begun := [(r.position, some 1)] } e).found = [e'] := by
    rw [turn, hmeet]
    simp only [hgreedy]
    rfl
  rw [hends, List.foldl_cons]
  refine getLast?_of_suffix (List.IsSuffix.trans ?_ (suffix_note _ r))
  exact List.foldlRecOn (motive := fun w : Walk => [e'] <:+ w.found) _ _
    (hfirst ▸ List.suffix_rfl) fun w hw e _ => hw.trans (suffix_turn (suffix_explore loop 1) _ w e)

end

end Reached

/-! ## Alternatives that were met -/

theorem between_behind (front piece rest : List Char) :
    between (.behind front (piece ++ rest)) (.behind (front ++ piece) rest) =
      ⟨front.length, piece⟩ := by
  rw [between, Cursor.behind, Cursor.behind, List.length_append, Nat.add_sub_cancel_left,
    List.take_left]

/-- None of the alternatives of what stands at a spot was met. -/
def Fresh (spot : Spot) (met : List Spot) : Prop :=
  ∀ s ∈ met, ¬ spot <:+ s

/-- On the way no alternatives were met but those of what stands at a spot. -/
def MeetsWithin (spot : Spot) (met met' : List Spot) : Prop :=
  ∀ s ∈ met', s ∈ met ∨ spot <:+ s

section

variable {spot inner other : Spot} {met met' met'' : List Spot}

theorem suffix_cons_cons (m n : Nat) (spot : Spot) : spot <:+ m :: n :: spot :=
  List.suffix_append [m, n] spot

theorem Fresh.not_mem (h : Fresh spot met) : spot ∉ met :=
  fun hmem => h spot hmem List.suffix_rfl

theorem Fresh.under (h : Fresh spot met) (hinner : spot <:+ inner) : Fresh inner met :=
  fun s hs hsuffix => h s hs (hinner.trans hsuffix)

/-- What stands beside a spot stays fresh. -/
theorem Fresh.beside (h : Fresh other met) (hmet : MeetsWithin spot met met') (hne : other ≠ spot)
    (hlength : other.length = spot.length) : Fresh other met' := by
  intro s hs hother
  rcases hmet s hs with hs | hspot
  · exact h s hs hother
  · exact hne ((List.suffix_of_suffix_length_le hother hspot (Nat.le_of_eq hlength)).eq_of_length hlength)

theorem MeetsWithin.refl (spot : Spot) (met : List Spot) : MeetsWithin spot met met :=
  fun _ hs => .inl hs

theorem MeetsWithin.nil (spot : Spot) (met : List Spot) : MeetsWithin spot met [] := nofun

theorem MeetsWithin.cons (h : MeetsWithin spot met met') : MeetsWithin spot met (spot :: met') :=
  List.forall_mem_cons.2 ⟨.inr List.suffix_rfl, h⟩

theorem MeetsWithin.trans (h : MeetsWithin spot met met') (h' : MeetsWithin spot met' met'') :
    MeetsWithin spot met met'' := by
  intro s hs
  rcases h' s hs with hs | hspot
  · exact h s hs
  · exact .inr hspot

theorem MeetsWithin.over (h : MeetsWithin inner met met') (hinner : spot <:+ inner) :
    MeetsWithin spot met met' :=
  fun s hs => (h s hs).imp_right hinner.trans

end

/-! ## Preferred pieces -/

/-- A pattern that stands behind `front` takes `piece` first of all and leaves `rest`; what its groups
hold then is `added` to what they held before. -/
def Prefers (p : Pattern) (front piece rest : List Char) (added : List (Nat × Piece)) : Prop :=
  ∀ spot groups met, Fresh spot met → ∃ met',
    (p.ends spot ⟨.behind front (piece ++ rest), groups, met⟩).head? =
      some ⟨.behind (front ++ piece) rest, added ++ groups, met'⟩ ∧ MeetsWithin spot met met'

/-- One pattern after the other, each in its first end. -/
inductive PrefersAll :
    List Pattern → (front piece rest : List Char) → (added : List (Nat × Piece)) → Prop
  | nil {front rest : List Char} : PrefersAll [] front [] rest []
  | cons {p : Pattern} {ps : List Pattern} {front first second rest : List Char}
      {added further : List (Nat × Piece)} (hp : p.Prefers front first (second ++ rest) added)
      (hps : PrefersAll ps (front ++ first) second rest further) :
      PrefersAll (p :: ps) front (first ++ second) rest (further ++ added)

section

variable {p a b : Pattern} {ps : List Pattern} {k : CharClass} {front piece first second rest : List Char}
  {added further : List (Nat × Piece)}

theorem prefers_place {place : Place} (h : place.holdsAt (.behind front rest) = true) :
    (Pattern.place place).Prefers front [] rest [] := by
  intro spot groups met _
  refine ⟨met, ?_, .refl spot met⟩
  rw [ends, List.nil_append, if_pos h, List.append_nil]
  rfl

theorem prefers_one {c : Char} (h : k.contains c = true) :
    (Pattern.one k).Prefers front [c] rest [] := by
  intro spot groups met _
  refine ⟨[], ?_, .nil spot met⟩
  rw [ends, consume?, Cursor.behind]
  dsimp only [List.singleton_append]
  rw [if_pos h, Cursor.behind, List.getLast?_append, List.length_append]
  rfl

theorem Prefers.seq (ha : a.Prefers front first (second ++ rest) added)
    (hb : b.Prefers (front ++ first) second rest further) :
    (Pattern.seq a b).Prefers front (first ++ second) rest (further ++ added) := by
  intro spot groups met hfresh
  have hleft : spot <:+ 0 :: spot := List.suffix_cons 0 spot
  have hright : spot <:+ 1 :: spot := List.suffix_cons 1 spot
  obtain ⟨met', hfirst, hmet'⟩ := ha (0 :: spot) groups met (hfresh.under hleft)
  have hne : 1 :: spot ≠ 0 :: spot := by simp
  have hbeside : Fresh (1 :: spot) met' := (hfresh.under hright).beside hmet' hne rfl
  obtain ⟨met'', hsecond, hmet''⟩ := hb (1 :: spot) (added ++ groups) met' hbeside
  refine ⟨met'', ?_, (hmet'.over hleft).trans (hmet''.over hright)⟩
  rw [ends, head?_distinct, List.append_assoc, head?_flatMap hfirst hsecond, List.append_assoc,
    List.append_assoc]

theorem Prefers.group (number : Nat) (h : a.Prefers front piece rest added) :
    (Pattern.group number a).Prefers front piece rest
      ((number, ⟨front.length, piece⟩) :: added) := by
  intro spot groups met hfresh
  have hinner : spot <:+ 0 :: spot := List.suffix_cons 0 spot
  obtain ⟨met', hfirst, hmet'⟩ := h (0 :: spot) groups met (hfresh.under hinner)
  refine ⟨met', ?_, hmet'.over hinner⟩
  rw [ends, List.head?_map, hfirst, Option.map_some, close, between_behind]
  rfl

/-- An optional part as a loop: one round may be made. -/
def optional (a : Pattern) (spot : Spot) : Loop where
  body := a.ends
  greedy := true
  round left := left.getD 0 :: 1 :: spot
  choice left := left.getD 0 :: 2 :: spot

theorem meet?_of_fresh {spot : Spot} {r : Reached} (h : Fresh spot r.met) :
    r.meet? spot = some { r with met := spot :: r.met } := by
  rw [meet?, if_neg]
  rw [List.contains_iff_mem]
  exact h.not_mem

theorem head?_ends_maybe {spot : Spot} {r : Reached} (h : Fresh spot r.met) :
    ((maybe a).ends spot r).head? =
      (upTo (optional a spot) (some 1) { r with met := (1 :: 2 :: spot) :: r.met }).head? := by
  have hmeet := meet?_of_fresh (h.under (suffix_cons_cons 1 2 spot))
  have hstart : [r].filterMap (meet? (1 :: 2 :: spot)) =
      [{ r with met := (1 :: 2 :: spot) :: r.met }] := by
    rw [List.filterMap_cons, hmeet]
    rfl
  have hunfold : (maybe a).ends spot r =
      distinct (([r].filterMap (meet? (1 :: 2 :: spot))).flatMap (upTo (optional a spot) (some 1))) :=
    rfl
  rw [hunfold, head?_distinct, hstart, List.flatMap_singleton]

/-- **An optional part** is taken if it can be. -/
theorem Prefers.maybe (h : a.Prefers front piece rest added) :
    (Pattern.maybe a).Prefers front piece rest added := by
  intro spot groups met hfresh
  have hstart := suffix_cons_cons 1 2 spot
  have hround := suffix_cons_cons 1 1 spot
  have hchoice := suffix_cons_cons 0 2 spot
  -- the spots are met one after the other: before the round, in the round, and behind it
  have hbefore : MeetsWithin (1 :: 2 :: spot) met ((1 :: 2 :: spot) :: met) := .cons (.refl _ met)
  obtain ⟨met', hfirst, hmet'⟩ := h (1 :: 1 :: spot) groups _
    ((hfresh.under hround).beside hbefore (by simp) rfl)
  have hbehind : Fresh (0 :: 2 :: spot) met' :=
    (((hfresh.under hchoice).beside hbefore (by simp) rfl).beside hmet' (by simp) rfl)
  refine ⟨(0 :: 2 :: spot) :: met', ?_, ?_⟩
  · rw [head?_ends_maybe hfresh]
    exact (head?_upTo_one rfl _).2 _ _ hfirst (meet?_of_fresh hbehind)
  · refine ((hbefore.over hstart).trans (hmet'.over hround)).trans ?_
    exact (MeetsWithin.cons (.refl _ met')).over hchoice

theorem prefers_maybe_nil (h : ∀ piece rest', rest = piece ++ rest' → ¬ a.Takes front piece rest') :
    (Pattern.maybe a).Prefers front [] rest [] := by
  intro spot groups met hfresh
  have hbefore : MeetsWithin (1 :: 2 :: spot) met ((1 :: 2 :: spot) :: met) := .cons (.refl _ met)
  refine ⟨_, ?_, hbefore.over (suffix_cons_cons 1 2 spot)⟩
  rw [head?_ends_maybe hfresh, List.append_nil, List.nil_append, List.nil_append]
  refine (head?_upTo_one rfl _).1 (List.eq_nil_iff_forall_not_mem.2 fun e he => ?_)
  obtain ⟨piece, rest', hrest, -, htakes⟩ := takes_of_mem_ends a _ rfl e he
  exact h piece rest' hrest htakes

theorem runLength_append (hpiece : ∀ c ∈ piece, k.contains c = true)
    (hrest : ∀ c ∈ rest.head?, k.contains c = false) :
    runLength k none (piece ++ rest) = piece.length := by
  induction piece with
  | nil =>
    cases rest with
    | nil => rfl
    | cons c rest =>
      rw [List.nil_append, runLength, hrest c rfl]
      · rfl
      · nofun
  | cons c piece ih =>
    obtain ⟨hc, hpiece⟩ := List.forall_mem_cons.1 hpiece
    rw [List.cons_append, runLength, if_pos hc, Option.map_none, ih hpiece, List.length_cons]
    nofun

theorem getLast?_ladder (r : Reached) (met : List Spot) {least n : Nat} (h : least ≤ n) :
    ∃ met', (r.ladder met least n).getLast? = some { r with cursor := r.cursor.advance n, met := met' } ∧
      (met' = r.met ∨ met' = met) := by
  have hgo (count : Nat) (cursor : Cursor) :
      ∃ met', (ladder.go r met cursor (count + 1)).getLast? =
        some { r with cursor := cursor.advance count, met := met' } ∧ (met' = r.met ∨ met' = met) := by
    induction count generalizing cursor with
    | zero =>
      refine ⟨_, rfl, ?_⟩
      split
      · exact .inl rfl
      · exact .inr rfl
    | succ count ih =>
      obtain ⟨met', hlast, hmet⟩ := ih (cursor.advance 1)
      refine ⟨met', ?_, hmet⟩
      rw [ladder.go, List.getLast?_cons, hlast, Option.getD_some, Cursor.advance_advance,
        Nat.add_comm]
  obtain ⟨met', hlast, hmet⟩ := hgo (n - least) (r.cursor.advance least)
  refine ⟨met', ?_, hmet⟩
  rw [ladder, Nat.sub_add_comm h, hlast, Cursor.advance_advance, Nat.add_sub_cancel' h]

/-- **A run** is preferred as long as it can be. -/
theorem prefers_run {least : Nat} (hleast : least ≤ piece.length)
    (hpiece : ∀ c ∈ piece, k.contains c = true) (hrest : ∀ c ∈ rest.head?, k.contains c = false) :
    (Pattern.run k ⟨least, none, true⟩).Prefers front piece rest [] := by
  intro spot groups met hfresh
  let r : Reached := ⟨.behind front (piece ++ rest), groups, spot :: met⟩
  let behindOne : List Spot := if least = 0 && (none : Option Nat).isNone then [spot] else []
  obtain ⟨met', hlast, hmet⟩ := getLast?_ladder r behindOne hleast
  have hends : (Pattern.run k ⟨least, none, true⟩).ends spot
      ⟨.behind front (piece ++ rest), groups, met⟩ =
      (r.ladder behindOne least (runLength k none (piece ++ rest))).reverse := by
    rw [ends, meet?_of_fresh hfresh, Option.toList_some, List.flatMap_singleton]
    rfl
  have hfits : piece.length ≤ (piece ++ rest).length :=
    List.length_append .. ▸ Nat.le_add_right ..
  refine ⟨met', ?_, ?_⟩
  · rw [hends, runLength_append hpiece hrest, List.head?_reverse, hlast, Cursor.advance_behind hfits,
      List.take_left, List.drop_left]
    rfl
  · rcases hmet with rfl | rfl
    · exact (MeetsWithin.refl spot met).cons
    · dsimp only [behindOne]
      split
      · exact (MeetsWithin.nil spot met).cons
      · exact .nil spot met

theorem prefers_many (hpiece : ∀ c ∈ piece, k.contains c = true)
    (hrest : ∀ c ∈ rest.head?, k.contains c = false) : (many k).Prefers front piece rest [] :=
  prefers_run (Nat.zero_le _) hpiece hrest

theorem prefers_many1 (hne : piece ≠ []) (hpiece : ∀ c ∈ piece, k.contains c = true)
    (hrest : ∀ c ∈ rest.head?, k.contains c = false) : (many1 k).Prefers front piece rest [] :=
  prefers_run (List.length_pos_iff.2 hne) hpiece hrest

theorem PrefersAll.foldl_seq (h : PrefersAll (p :: ps) front piece rest added) :
    (ps.foldl .seq p).Prefers front piece rest added := by
  induction ps generalizing p piece added with
  | nil =>
    cases h with
    | cons hp hps =>
      cases hps
      rwa [List.append_nil, List.nil_append]
  | cons q ps ih =>
    -- the first two become one pattern
    cases h with
    | cons hp hps =>
      cases hps with
      | cons hq hps =>
        rw [List.append_assoc] at hp hps
        rw [List.foldl_cons]
        simpa only [List.append_assoc] using ih (.cons (hp.seq hq) hps)

/-- **One pattern after the other**, as one pattern. -/
theorem PrefersAll.chain (h : PrefersAll ps front piece rest added) :
    (Pattern.chain ps).Prefers front piece rest added := by
  cases ps with
  | nil =>
    cases h
    intro spot groups met _
    exact ⟨met, by rw [List.append_nil]; rfl, .refl spot met⟩
  | cons p ps => exact h.foldl_seq

theorem prefers_word (w : String) : (word w).Prefers front w.toList rest [] := by
  refine PrefersAll.chain ?_
  generalize w.toList = cs
  induction cs generalizing front with
  | nil => exact .nil
  | cons c cs ih =>
    have hc : (CharClass.single c).contains c = true := by
      rw [CharClass.contains_single, beq_self_eq_true]
    exact .cons (prefers_one hc) ih

end

/-! ## Matches -/

section

variable {p : Pattern} {front piece rest : List Char} {added : List (Nat × Piece)}

/-- **What a pattern prefers is its match.** -/
theorem matchAt?_of_prefers (h : p.Prefers front piece rest added) :
    p.matchAt? (.behind front (piece ++ rest)) =
      some (⟨⟨front.length, piece⟩, added⟩, .behind (front ++ piece) rest) := by
  obtain ⟨met', hfirst, -⟩ := h [] [] [] nofun
  rw [matchAt?, hfirst, Option.map_some, between_behind, List.append_nil]

end

end CodeSnapshot.Pattern
