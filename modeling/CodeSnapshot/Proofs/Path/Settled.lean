import CodeSnapshot.Proofs.Path.NormalForm
import CodeSnapshot.Proofs.Text.Splits

/-!
# Settled names — names that are looked up as they are stored

Names are brought into normal form when they are stored, and again whenever they are looked up. That
works only for names which the second round leaves alone, and the first round does not make all of
them so: it takes blanks off before it takes off `./`, and `./` before slashes, so that a blank or a
`./` which comes to light late stays.

* **`IsSettled`** — no blank at either end and no `./` at the start.
* **`normalizeChars_normalizeChars_iff`** — of the names that a first round gives, the second round
  leaves alone exactly the settled ones.
-/

namespace CodeSnapshot.Path

open Text

/-! ## What one round settles -/

theorem slashed_eq_self_iff {cs : List Char} : slashed cs = cs ↔ '\\' ∉ cs := by
  have hturn : ∀ c : Char, (if c = '\\' then '/' else c) = c ↔ '\\' ≠ c := by
    intro c
    by_cases hc : c = '\\'
    · simp [hc]
    · simp [hc, Ne.symm hc]
  induction cs with
  | nil => simp [slashed]
  | cons c cs ih =>
    show (if c = '\\' then '/' else c) :: slashed cs = c :: cs ↔ _
    rw [List.cons.injEq, List.mem_cons, not_or]
    exact and_congr (hturn c) ih

theorem not_mem_slashed (cs : List Char) : '\\' ∉ slashed cs := by
  intro hmem
  obtain ⟨c, -, hc⟩ := List.mem_map.1 hmem
  split at hc
  · cases hc
  · contradiction

theorem dropDotSlashes_eq_self_iff {cs : List Char} :
    dropDotSlashes cs = cs ↔ ¬ ['.', '/'] <+: cs := by
  fun_cases dropDotSlashes cs with
  | case1 rest =>
    have hlength := (dropDotSlashes_sublist rest).length_le
    constructor
    · intro heq
      rw [heq, List.length_cons, List.length_cons] at hlength
      omega
    · intro hno
      exact absurd ⟨rest, rfl⟩ hno
  | case2 cs hno =>
    constructor
    · rintro - ⟨rest, rfl⟩
      exact hno rest rfl
    · exact fun _ => rfl

/-- What every name has that went through one round: its slashes are turned, there are none at its
ends, and it is not the root as a dot. -/
theorem normalizeChars_keeps (raw : List Char) :
    slashed (normalizeChars raw) = normalizeChars raw ∧
      trimSlashes (normalizeChars raw) = normalizeChars raw ∧ normalizeChars raw ≠ ['.'] := by
  rw [normalizeChars]
  split
  · exact ⟨rfl, rfl, by decide⟩
  · rename_i hne
    refine ⟨slashed_eq_self_iff.2 fun hmem => ?_, stripped_stripped _, hne⟩
    have hsub := (trimSlashes_sublist _).trans (dropDotSlashes_sublist (slashed (trim raw)))
    exact not_mem_slashed (trim raw) (hsub.subset hmem)

/-! ## What a second round leaves alone -/

/-- No blank at either end, and no `./` at the start. -/
structure IsSettled (name : List Char) : Prop where
  first : ∀ c ∈ name.head?, isBlank c = false
  last : ∀ c ∈ name.getLast?, isBlank c = false
  noDotSlash : ¬ ['.', '/'] <+: name

instance (name : List Char) : Decidable (IsSettled name) :=
  decidable_of_iff
    ((name.head?.all (! isBlank ·) && name.getLast?.all (! isBlank ·) &&
      ! ['.', '/'].isPrefixOf name) = true) <| by
    simp only [Bool.and_eq_true, Option.all_eq_true, Bool.not_eq_true', Bool.eq_false_iff, ne_eq,
      List.isPrefixOf_iff_prefix]
    constructor
    · rintro ⟨⟨hfirst, hlast⟩, hdot⟩
      exact ⟨fun c hc => Bool.eq_false_iff.2 (hfirst c hc),
        fun c hc => Bool.eq_false_iff.2 (hlast c hc), hdot⟩
    · intro h
      exact ⟨⟨fun c hc => Bool.eq_false_iff.1 (h.first c hc),
        fun c hc => Bool.eq_false_iff.1 (h.last c hc)⟩, h.noDotSlash⟩

/-- **The second round** leaves a name alone exactly if it is settled. -/
theorem normalizeChars_normalizeChars_iff (raw : List Char) :
    normalizeChars (normalizeChars raw) = normalizeChars raw ↔ IsSettled (normalizeChars raw) := by
  obtain ⟨hslashed, hslashes, hdot⟩ := normalizeChars_keeps raw
  generalize normalizeChars raw = name at hslashed hslashes hdot
  constructor
  · intro h
    by_cases hnil : name = []
    · rw [hnil]
      decide
    · have hnormal := isNormal_of_normalizeChars_eq h hnil
      obtain ⟨hfirst, hlast⟩ := stripped_eq_self_iff.1 hnormal.trim
      exact ⟨hfirst, hlast, dropDotSlashes_eq_self_iff.1 hnormal.dropDotSlashes⟩
  · intro h
    have htrim : Text.trim name = name := stripped_eq_self_iff.2 ⟨h.first, h.last⟩
    have hdots : dropDotSlashes name = name := dropDotSlashes_eq_self_iff.2 h.noDotSlash
    rw [normalizeChars, htrim, hslashed, hdots, hslashes]
    exact if_neg hdot

theorem normalize_normalize_iff (raw : String) :
    normalize (normalize raw) = normalize raw ↔ IsSettled (normalize raw).toList := by
  rw [normalize, normalize, String.toList_ofList, ← normalizeChars_normalizeChars_iff,
    String.ofList_inj]

-- a `./` behind a slash and a blank behind a `./` are not seen by the first round
example : (["/./a.ts", "./ a.ts", "a.ts /"].map normalize, ["./a.ts", " a.ts"].map normalize) =
    (["./a.ts", " a.ts", "a.ts "], ["a.ts", "a.ts"]) := by
  decide

end CodeSnapshot.Path
