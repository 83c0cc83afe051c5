import CodeSnapshot.Path
import CodeSnapshot.Proofs.Text.Splits

/-!
# Joined paths — following a specifier step by step

A specifier is followed segment by segment, on a stack of the names that lead to where one is. Only
the stack matters for what comes next, and a path that was put together from a stack gives the same
stack again. So a specifier may be followed in parts, and what the parts are makes no difference.

* **`segments`**, **`pathOf`**, **`entries`** — the segments of a path, and the names in it.
* **`foldlM_step?_eq_none_iff`** — when a climb ends above the root: some first segments go up more
  often than there are names to leave.
* **`mem_of_foldlM_step?`** — where the names on a stack come from, and **`stackOf_ofStack`** — a path
  gives back the stack that it was put together from.
* **`join?_composes`** — the headline.
-/

namespace CodeSnapshot.Path

open Text

/-! ## Segments and names -/

/-- The path with some segments. -/
def pathOf (segments : List (List Char)) : String :=
  String.ofList (joinWith ['/'] segments)

def segments (path : String) : List (List Char) :=
  splitAt '/' path.toList

/-- The names in a path. The root, which is the empty path, has none. -/
def entries (path : String) : List (List Char) :=
  if path = "" then [] else segments path

/-- The segment that leads to the directory above. -/
def up : List Char := ['.', '.']

/-- Whether a segment leads further down. -/
def isDown (segment : List Char) : Bool :=
  ! isIdle segment && segment != up

/-- A segment that stays in a path: it does not stand for its own directory. -/
structure IsKept (segment : List Char) : Prop where
  notIdle : isIdle segment = false
  noSlash : '/' ∉ segment

variable {names segs stack result : List (List Char)} {segment : List Char} {path : String}

theorem pathOf_segments (path : String) : pathOf (segments path) = path := by
  rw [pathOf, segments, joinWith_splitAt, String.ofList_toList]

theorem segments_append_slash (s t : String) :
    segments (s ++ "/" ++ t) = segments s ++ segments t := by
  rw [segments, String.toList_append, String.toList_append, show "/".toList = ['/'] from rfl,
    List.append_assoc]
  exact splitAt_append_cons s.toList t.toList

theorem isIdle_eq_false_iff : isIdle segment = false ↔ segment ≠ [] ∧ segment ≠ ['.'] := by
  simp [isIdle]

theorem isDown_iff : isDown segment = true ↔ isIdle segment = false ∧ segment ≠ up := by
  simp [isDown]

/-! ## One step -/

theorem step?_of_isIdle (h : isIdle segment = true) : step? stack segment = some stack :=
  if_pos h

theorem step?_of_isDown (h : isDown segment = true) :
    step? stack segment = some (segment :: stack) := by
  obtain ⟨hidle, hup⟩ := isDown_iff.1 h
  unfold step?
  rw [hidle, if_neg Bool.false_ne_true]
  exact if_neg hup

theorem step?_up_cons (name : List Char) (stack : List (List Char)) :
    step? (name :: stack) up = some stack := rfl

/-- A segment stays, goes up or goes down. -/
theorem isIdle_or_up_or_isDown (segment : List Char) :
    isIdle segment = true ∨ segment = up ∨ isDown segment = true := by
  cases hidle : isIdle segment with
  | true => exact .inl rfl
  | false =>
    by_cases hup : segment = up
    · exact .inr (.inl hup)
    · exact .inr (.inr (isDown_iff.2 ⟨hidle, hup⟩))

/-! ## Climbing above the root -/

/-- Some first segments go up more often than there are names to leave, of those that were there
before and of those that the segments bring. -/
def ClimbsOut (height : Nat) (segs : List (List Char)) : Prop :=
  ∃ front, front <+: segs ∧ height + front.countP isDown < front.count up

theorem not_climbsOut_nil (height : Nat) : ¬ ClimbsOut height [] := by
  rintro ⟨front, hfront, hlt⟩
  rw [List.prefix_nil.1 hfront] at hlt
  exact Nat.not_lt_zero _ hlt

/-- What a first segment does for the climb: it may bring a name, or use one. -/
theorem climbsOut_cons {height height' : Nat}
    (hbalance : ∀ front : List (List Char), height + (segment :: front).countP isDown <
      (segment :: front).count up ↔ height' + front.countP isDown < front.count up) :
    ClimbsOut height (segment :: segs) ↔ ClimbsOut height' segs := by
  constructor
  · rintro ⟨front, hfront, hlt⟩
    cases front with
    | nil => exact absurd hlt (Nat.not_lt_zero _)
    | cons first front =>
      obtain ⟨rfl, hrest⟩ := List.cons_prefix_cons.1 hfront
      exact ⟨front, hrest, (hbalance front).1 hlt⟩
  · rintro ⟨front, hfront, hlt⟩
    exact ⟨segment :: front, List.cons_prefix_cons.2 ⟨rfl, hfront⟩, (hbalance front).2 hlt⟩

/-- **When a climb ends above the root.** Induction on the segments; the names on the stack are those
that may still be left. -/
theorem foldlM_step?_eq_none_iff (segs stack : List (List Char)) :
    segs.foldlM step? stack = none ↔ ClimbsOut stack.length segs := by
  induction segs generalizing stack with
  | nil => exact iff_of_false (Option.some_ne_none stack) (not_climbsOut_nil _)
  | cons segment segs ih =>
    rw [List.foldlM_cons]
    rcases isIdle_or_up_or_isDown segment with hidle | rfl | hdown
    · have hneither : isDown segment = false ∧ segment ≠ up := by
        refine ⟨by simp [isDown, hidle], ?_⟩
        rintro rfl
        exact absurd hidle (by decide)
      rw [step?_of_isIdle hidle, climbsOut_cons fun front => ?_]
      · exact ih stack
      · rw [List.countP_cons_of_neg (by simp [hneither.1]), List.count_cons_of_ne hneither.2]
    · have hdown : ¬ isDown up = true := by decide
      cases stack with
      | nil =>
        exact iff_of_true rfl ⟨[up], List.cons_prefix_cons.2 ⟨rfl, List.nil_prefix⟩, by decide⟩
      | cons name stack =>
        rw [step?_up_cons, climbsOut_cons fun front => ?_]
        · exact ih stack
        · rw [List.countP_cons_of_neg hdown, List.count_cons_self, List.length_cons]
          omega
    · have hup : segment ≠ up := (isDown_iff.1 hdown).2
      rw [step?_of_isDown hdown, climbsOut_cons fun front => ?_]
      · exact ih (segment :: stack)
      · rw [List.countP_cons_of_pos hdown, List.count_cons_of_ne hup, List.length_cons]
        omega

/-! ## Stacks and paths -/

/-- **Where the names on a stack come from**: they were there before, or are segments that lead down. -/
theorem mem_of_foldlM_step? (h : segs.foldlM step? stack = some result) {name : List Char}
    (hname : name ∈ result) : name ∈ stack ∨ name ∈ segs ∧ isDown name = true := by
  induction segs generalizing stack with
  | nil =>
    cases h
    exact .inl hname
  | cons segment segs ih =>
    rw [List.foldlM_cons] at h
    obtain ⟨next, hnext, h⟩ := Option.bind_eq_some_iff.1 h
    rcases ih h with hin | ⟨hin, hdown⟩
    · rcases isIdle_or_up_or_isDown segment with hidle | rfl | hdown
      · rw [step?_of_isIdle hidle] at hnext
        cases hnext
        exact .inl hin
      · cases stack with
        | nil => cases hnext
        | cons top stack =>
          cases hnext
          exact .inl (List.mem_cons_of_mem top hin)
      · rw [step?_of_isDown hdown] at hnext
        cases hnext
        rcases List.mem_cons.1 hin with rfl | hin
        · exact .inr ⟨List.mem_cons_self .., hdown⟩
        · exact .inl hin
    · exact .inr ⟨List.mem_cons_of_mem segment hin, hdown⟩

theorem mem_stackOf {directory : List Char} :
    segment ∈ stackOf directory ↔ segment ∈ splitAt '/' directory ∧ isIdle segment = false := by
  simp [stackOf]

theorem isKept_of_mem_stackOf {directory : List Char} (h : segment ∈ stackOf directory) :
    IsKept segment := by
  obtain ⟨hin, hidle⟩ := mem_stackOf.1 h
  exact ⟨hidle, not_mem_of_mem_splitAt hin⟩

theorem stackOf_joinWith (h : ∀ segment ∈ names, IsKept segment) :
    stackOf (joinWith ['/'] names) = names.reverse := by
  by_cases hnames : names = []
  · subst hnames
    rfl
  · have hkeep : names.filter (! isIdle ·) = names :=
      List.filter_eq_self.2 fun segment hsegment => by
        rw [(h segment hsegment).notIdle]
        rfl
    rw [stackOf, splitAt_joinWith hnames fun segment hsegment => (h segment hsegment).noSlash,
      hkeep]

/-- **A path gives back its stack.** -/
theorem stackOf_ofStack (h : ∀ name ∈ stack, IsKept name) : stackOf (ofStack stack) = stack := by
  rw [ofStack, stackOf_joinWith fun name hname => h name (List.mem_reverse.1 hname),
    List.reverse_reverse]

theorem entries_pathOf (h : ∀ name ∈ names, IsKept name) : entries (pathOf names) = names := by
  by_cases hnames : names = []
  · subst hnames
    rfl
  · have hsegments : segments (pathOf names) = names := by
      rw [segments, pathOf, String.toList_ofList]
      exact splitAt_joinWith hnames fun name hname => (h name hname).noSlash
    have hne : pathOf names ≠ "" := by
      -- the empty path has one segment, which is idle
      intro hempty
      rw [hempty] at hsegments
      have hidle := (h [] (hsegments ▸ List.mem_singleton_self [])).notIdle
      exact absurd hidle (by decide)
    rw [entries, if_neg hne, hsegments]

/-! ## Joining -/

theorem join?_eq (base specifier : String) :
    join? base specifier =
      ((segments specifier).foldlM step? (stackOf base.toList)).map fun stack =>
        String.ofList (ofStack stack) := by
  rw [join?, joinChars?, Option.map_map]
  rfl

theorem isKept_of_foldlM_step? {base specifier : String}
    (h : (segments specifier).foldlM step? (stackOf base.toList) = some result) :
    ∀ name ∈ result, IsKept name := by
  intro name hname
  rcases mem_of_foldlM_step? h hname with hin | ⟨hin, hdown⟩
  · exact isKept_of_mem_stackOf hin
  · exact ⟨(isDown_iff.1 hdown).1, not_mem_of_mem_splitAt hin⟩

/-- The parts of a specifier are followed one after the other. -/
theorem join?_append_slash (base s t : String) :
    join? base (s ++ "/" ++ t) = (join? base s).bind (join? · t) := by
  rw [join?_eq, join?_eq, segments_append_slash, List.foldlM_append]
  cases hs : (segments s).foldlM step? (stackOf base.toList) with
  | none => rfl
  | some stack =>
    show ((segments t).foldlM step? stack).map _ = join? (String.ofList (ofStack stack)) t
    rw [join?_eq, String.toList_ofList, stackOf_ofStack (isKept_of_foldlM_step? hs)]

theorem join?_eq_none_iff (base specifier : String) :
    join? base specifier = none ↔
      ClimbsOut ((segments base).countP (! isIdle ·)) (segments specifier) := by
  have hheight : (stackOf base.toList).length = (segments base).countP (! isIdle ·) := by
    rw [stackOf, List.length_reverse, List.countP_eq_length_filter]
    rfl
  rw [join?_eq, Option.map_eq_none_iff, foldlM_step?_eq_none_iff, hheight]

theorem entries_of_join? {base specifier : String} (h : join? base specifier = some path) :
    ∀ name ∈ entries path, isIdle name = false ∧ (up ∉ segments base → name ≠ up) := by
  rw [join?_eq] at h
  obtain ⟨stack, hstack, rfl⟩ := Option.map_eq_some_iff.1 h
  have hkept := isKept_of_foldlM_step? hstack
  have hentries : entries (String.ofList (ofStack stack)) = stack.reverse :=
    entries_pathOf fun name hname => hkept name (List.mem_reverse.1 hname)
  rw [hentries]
  intro name hname
  have hin := List.mem_reverse.1 hname
  refine ⟨(hkept name hin).notIdle, fun hbase hup => ?_⟩
  rcases mem_of_foldlM_step? hstack hin with hold | ⟨-, hdown⟩
  · exact hbase (hup ▸ (mem_stackOf.1 hold).1)
  · exact (isDown_iff.1 hdown).2 hup

/-- **Joining composes and normalizes.** A specifier in two parts leads where the second part leads
from the path of the first one. A specifier leads nowhere exactly if some of its first segments go up
more often than the directory and these segments have names to leave. And the path that it leads to
has no empty name, no `.` and, if the directory has none, no `..`. -/
theorem join?_composes (base s t : String) :
    join? base (s ++ "/" ++ t) = (join? base s).bind (join? · t) ∧
    (join? base s = none ↔ ∃ front, front <+: segments s ∧
      (segments base).countP (! isIdle ·) + front.countP isDown < front.count ['.', '.']) ∧
    (∀ path, join? base s = some path → ∀ name ∈ entries path,
      name ≠ [] ∧ name ≠ ['.'] ∧ (['.', '.'] ∉ segments base → name ≠ ['.', '.'])) := by
  refine ⟨join?_append_slash base s t, join?_eq_none_iff base s, fun path hpath name hname => ?_⟩
  obtain ⟨hidle, hup⟩ := entries_of_join? hpath name hname
  obtain ⟨hnonempty, hdot⟩ := isIdle_eq_false_iff.1 hidle
  exact ⟨hnonempty, hdot, hup⟩

/-- From a directory that is written with idle segments, past its own names and down again. -/
theorem join?_composes_across_root :
    join? "./src//app" "../../lib" = some "lib" ∧
    join? "./src//app" ("../../lib" ++ "/" ++ "./x/") = some "lib/x" ∧
    join? "./src//app" "../../../lib" = none ∧
    (∀ name ∈ entries "lib/x", name ≠ [] ∧ name ≠ ['.'] ∧ name ≠ ['.', '.']) := by
  have hpath : join? "./src//app" ("../../lib" ++ "/" ++ "./x/") = some "lib/x" := by
    rw [(join?_composes "./src//app" "../../lib" "./x/").1]
    decide
  have hnone : join? "./src//app" "../../../lib" = none :=
    (join?_composes "./src//app" "../../../lib" "").2.1.2
      ⟨[up, up, up], by decide, by decide⟩
  refine ⟨by decide, hpath, hnone, fun name hname => ?_⟩
  obtain ⟨hnonempty, hdot, hup⟩ :=
    (join?_composes "./src//app" ("../../lib" ++ "/" ++ "./x/") "").2.2 _ hpath name hname
  exact ⟨hnonempty, hdot, hup (by decide)⟩

-- a directory may climb itself, and then the path that comes of it does
example : join? "../a" "../b" = some "../b" ∧ join? "../a" "../../.." = none := by
  decide

end CodeSnapshot.Path
