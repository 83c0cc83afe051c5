import CodeSnapshot.Document.Section

/-!
# Normal form — paths that stay as they are

Bringing a path into normal form only takes characters off its ends, apart from turning its slashes.
So a path that is its own normal form is left alone by each of the steps.

* **`trim_sublist`**, **`dropDotSlashes_sublist`**, **`trimSlashes_sublist`** — the steps that take
  characters off.
* **`IsNormal`** — what there is to say about a path in normal form; `isNormal_of_normalizeChars_eq`
  reads it off.
* **`ofLine?_fileLine`** — the title that is written for such a path is read back.
-/

namespace CodeSnapshot

/-! ## Steps that take characters off -/

namespace Text

theorem trimStart_sublist (cs : List Char) : (trimStart cs).Sublist cs :=
  (List.dropWhile_suffix _).sublist

theorem trimEnd_sublist (cs : List Char) : (trimEnd cs).Sublist cs := by
  have h := (List.dropWhile_suffix (l := cs.reverse) isBlank).sublist.reverse
  rwa [List.reverse_reverse] at h

theorem trim_sublist (cs : List Char) : (trim cs).Sublist cs :=
  (trimEnd_sublist _).trans (trimStart_sublist cs)

/-- What is trimmed ends with a character that is not blank. -/
theorem eq_nil_or_concat_of_trimEnd (cs : List Char) :
    trimEnd cs = [] ∨ ∃ init c, trimEnd cs = init ++ [c] ∧ isBlank c = false := by
  have hhead := List.head?_dropWhile_not isBlank cs.reverse
  rw [trimEnd]
  cases hrest : cs.reverse.dropWhile isBlank with
  | nil => exact .inl rfl
  | cons c rest =>
    rw [hrest] at hhead
    exact .inr ⟨rest.reverse, c, List.reverse_cons, hhead⟩

end Text

namespace Path

open Text

theorem dropDotSlashes_sublist (cs : List Char) : (dropDotSlashes cs).Sublist cs := by
  fun_induction dropDotSlashes cs with
  | case1 rest ih => exact (ih.cons _).cons _
  | case2 cs h => exact List.Sublist.refl cs

theorem trimSlashes_sublist (cs : List Char) : (trimSlashes cs).Sublist cs := by
  have hback := (List.dropWhile_suffix (l := (cs.dropWhile isSlash).reverse) isSlash).sublist.reverse
  rw [List.reverse_reverse] at hback
  exact hback.trans (List.dropWhile_suffix isSlash).sublist

/-! ## Paths in normal form -/

/-- A path that no step of the normal form changes, and that is not the root. -/
structure IsNormal (path : List Char) : Prop where
  trim : trim path = path
  slashed : slashed path = path
  dropDotSlashes : dropDotSlashes path = path
  trimSlashes : trimSlashes path = path
  ne_dot : path ≠ ['.']
  ne_nil : path ≠ []

/-- **A path that is its own normal form.** The steps shorten the path or keep its length, so none of
them does anything. -/
theorem isNormal_of_normalizeChars_eq {path : List Char} (h : normalizeChars path = path)
    (hne : path ≠ []) : IsNormal path := by
  have hroot : Path.trimSlashes (Path.dropDotSlashes (Path.slashed (Text.trim path))) ≠ ['.'] := by
    intro hdot
    rw [normalizeChars, if_pos hdot] at h
    exact hne h.symm
  have hpath : Path.trimSlashes (Path.dropDotSlashes (Path.slashed (Text.trim path))) = path := by
    rwa [normalizeChars, if_neg hroot] at h
  have hlength : (Path.slashed (Text.trim path)).length = (Text.trim path).length :=
    List.length_map ..
  have htrim := trim_sublist path
  have hdots := dropDotSlashes_sublist (Path.slashed (Text.trim path))
  have hslashes := trimSlashes_sublist (Path.dropDotSlashes (Path.slashed (Text.trim path)))
  have hlengths := congrArg List.length hpath
  have hshorter := htrim.length_le
  have hshorter' := hdots.length_le
  have hshorter'' := hslashes.length_le
  have htrim := htrim.eq_of_length (by omega)
  have hdots := hdots.eq_of_length (by omega)
  have hslashes := hslashes.eq_of_length (by omega)
  rw [htrim] at hdots hslashes hpath hroot
  have hslashed : Path.slashed path = path := by
    rw [← hdots, ← hslashes]
    exact hpath
  rw [hslashed] at hdots hslashes hpath hroot
  rw [hdots] at hslashes
  exact ⟨htrim, hslashed, hdots, hslashes, fun hdot => hroot (hpath.trans hdot), hne⟩

theorem isNormal_of_normalize_eq {name : String} (h : normalize name = name) (hne : name ≠ "") :
    IsNormal name.toList := by
  refine isNormal_of_normalizeChars_eq ?_ fun hnil => hne (String.toList_eq_nil_iff.1 hnil)
  have hchars := congrArg String.toList h
  rwa [normalize, String.toList_ofList] at hchars

theorem IsNormal.exists_concat {path : List Char} (h : IsNormal path) :
    ∃ init c, path = init ++ [c] ∧ isBlank c = false := by
  have hlast : Text.trim path = [] ∨ ∃ init c, Text.trim path = init ++ [c] ∧ isBlank c = false :=
    eq_nil_or_concat_of_trimEnd (trimStart path)
  rw [h.trim] at hlast
  exact hlast.resolve_left h.ne_nil

/-- A path in normal form may be written with `./` before it. -/
theorem IsNormal.normalizeChars_cons {path : List Char} (h : IsNormal path) :
    normalizeChars ('.' :: '/' :: path) = path := by
  obtain ⟨init, c, hpath, hc⟩ := h.exists_concat
  have htrim : Text.trim ('.' :: '/' :: path) = '.' :: '/' :: path := by
    rw [Text.trim, trimStart_cons_of_not_blank _ (by decide), hpath]
    exact trimEnd_append_of_not_blank ('.' :: '/' :: init) hc
  have hslashed : Path.slashed ('.' :: '/' :: path) = '.' :: '/' :: path := by
    show '.' :: '/' :: Path.slashed path = _
    rw [h.slashed]
  rw [normalizeChars, htrim, hslashed, Path.dropDotSlashes, h.dropDotSlashes, h.trimSlashes]
  exact if_neg h.ne_dot

end Path

/-! ## Titles of files -/

namespace Title

/-- The title line of a file. -/
def fileLine (path : String) : String :=
  "FILE: ./" ++ path

theorem toList_fileLine (path : String) :
    (fileLine path).toList = fileMark ++ '.' :: '/' :: path.toList := by
  rw [fileLine, String.toList_append]
  rfl

variable {path : String}

theorem not_mem_fileLine (h : '\n' ∉ path.toList) : '\n' ∉ (fileLine path).toList := by
  have hmark : '\n' ∉ fileMark := by decide
  have hdot : '\n' ∉ ['.', '/'] := by decide
  rw [toList_fileLine, List.mem_append, not_or]
  refine ⟨hmark, fun hmem => ?_⟩
  rcases List.mem_append.1 (show '\n' ∈ ['.', '/'] ++ path.toList from hmem) with hin | hin
  · exact hdot hin
  · exact h hin

/-- The title line of a path in normal form has no blank at its end. -/
theorem exists_concat_fileLine (h : Path.IsNormal path.toList) :
    ∃ init c, (fileLine path).toList = init ++ [c] ∧ Text.isBlank c = false := by
  obtain ⟨init, c, hpath, hc⟩ := h.exists_concat
  refine ⟨fileMark ++ '.' :: '/' :: init, c, ?_, hc⟩
  rw [toList_fileLine, hpath, List.append_assoc]
  rfl

/-- **The title of a file is read back.** -/
theorem ofLine?_fileLine (h : Path.IsNormal path.toList) :
    ofLine? (fileLine path) = some (.file path) := by
  obtain ⟨init, c, hline, hc⟩ := exists_concat_fileLine h
  have htrim : Text.trimEnd (fileLine path).toList = fileMark ++ '.' :: '/' :: path.toList := by
    rw [← toList_fileLine, hline]
    exact Text.trimEnd_append_of_not_blank init hc
  have hmark := Text.after?_eq_some_iff.2 htrim
  have hnonempty : path.toList.isEmpty = false := by
    rw [List.isEmpty_eq_false_iff]
    exact h.ne_nil
  rw [ofLine?, hmark]
  simp only [h.normalizeChars_cons, hnonempty]
  rw [String.ofList_toList]
  rfl

end Title

end CodeSnapshot
