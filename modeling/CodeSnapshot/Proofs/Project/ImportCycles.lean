import CodeSnapshot.Project.Basic
import CodeSnapshot.Proofs.Project.NumberedFiles
import CodeSnapshot.Proofs.Sorted.SortedLists
import Mathlib.Data.List.Flatten
import Mathlib.Data.List.Pairwise
import Mathlib.Data.List.Perm.Basic

/-!
# Import cycles — the cycles of a project are its files that import each other

The cycles are picked out of the strongly connected components of the numbered files: those with more
than one number, and those whose number leads to itself. The names of each are sorted, and so are the
cycles, so that it makes no difference in which order the components were found.

* **`isCycle_iff`** — what is picked out: the components whose numbers are on ways to themselves.
* **`mem_files_iff`** — the files of a component.
* **`AreCycles`** — what a list of cycles is: which files are in it, and in which order.
  `AreCycles.unique` says that no two lists are cycles of one graph.
* **`areCycles_cyclesAmong`** — the cycles among any strongly connected components.
* **`areCycles_iff`** — the headline, for all projects.
-/

namespace CodeSnapshot

open Relation

namespace NumberedGraph

variable {n : NumberedGraph} {components : List (List Nat)} {members : List Nat} {i j : Nat}
  {file : String}

theorem AreComponents.nodup (h : n.AreComponents components) (hmembers : members ∈ components) :
    members.Nodup :=
  (List.nodup_flatten.1 h.once).1 members hmembers

theorem AreComponents.lt (h : n.AreComponents components) (hmembers : members ∈ components)
    (hi : i ∈ members) : i < n.size :=
  (h.covered i).1 ⟨members, hmembers, hi⟩

/-- The same components, whatever their order and that of their numbers. -/
theorem AreComponents.rearranged {others : List (List Nat)} (h : n.AreComponents components)
    (hflat : components.flatten.Perm others.flatten)
    (hsame : ∀ members ∈ others, ∃ old ∈ components, old.Perm members)
    (hfilled : ∀ members ∈ others, members ≠ []) : n.AreComponents others where
  covered i := by
    rw [← h.covered i, ← List.mem_flatten, ← List.mem_flatten, hflat.mem_iff]
  together members hmembers i hi j := by
    obtain ⟨old, hold, hperm⟩ := hsame members hmembers
    rw [← hperm.mem_iff, h.together old hold i (hperm.mem_iff.2 hi)]
  filled := hfilled
  once := hflat.nodup_iff.1 h.once

/-! ## The components that are picked out -/

/-- **A component is a cycle** if its numbers are on ways to themselves. -/
theorem AreComponents.isCycle_iff (h : n.AreComponents components)
    (hknown : ∀ i j, n.Leads i j → j < n.size) (hmembers : members ∈ components)
    (hi : i ∈ members) : n.isCycle members = true ↔ TransGen n.Leads i i := by
  cases members with
  | nil => cases hi
  | cons first rest =>
    cases rest with
    | nil =>
      -- a way from the only number to itself leaves it for no other one
      obtain rfl := List.mem_singleton.1 hi
      have hedge : n.isCycle [i] = true ↔ n.Leads i i := by
        simp [isCycle, hasEdge, Leads]
      rw [hedge]
      constructor
      · exact TransGen.single
      · intro hway
        obtain ⟨j, hleads, hback⟩ := TransGen.head'_iff.1 hway
        have hj : j ∈ [i] :=
          (h.together _ hmembers i hi j).2 ⟨hknown i j hleads, .single hleads, hback⟩
        rwa [List.mem_singleton.1 hj] at hleads
    | cons second rest =>
      have hlong : n.isCycle (first :: second :: rest) = true := by simp [isCycle]
      refine iff_of_true hlong ?_
      -- there is another number, and the ways there and back are no empty ones
      obtain ⟨j, hj, hne⟩ : ∃ j ∈ first :: second :: rest, j ≠ i := by
        have hfirst : first ≠ second := by
          have hnodup := h.nodup hmembers
          rw [List.nodup_cons, List.mem_cons, not_or] at hnodup
          exact hnodup.1.1
        by_cases heq : first = i
        · exact ⟨second, by simp, fun hsecond => hfirst (heq.trans hsecond.symm)⟩
        · exact ⟨first, by simp, heq⟩
      obtain ⟨-, hthere, hback⟩ := (h.together _ hmembers i hi j).1 hj
      rcases reflTransGen_iff_eq_or_transGen.1 hthere with heq | hway
      · exact absurd heq hne
      · exact hway.trans_left hback

/-! ## The files of a component -/

theorem getD_names_iff (hi : i < n.size) : n.names.getD i "" = file ↔ n.Names i file := by
  rw [List.getD_eq_getElem?_getD, Names, List.getElem?_eq_getElem hi, Option.getD_some,
    Option.some.injEq]

theorem AreComponents.mem_files_iff (h : n.AreComponents components)
    (hmembers : members ∈ components) :
    file ∈ n.files members ↔ ∃ i ∈ members, n.Names i file := by
  rw [files, mem_sortedBy, List.mem_map]
  exact exists_congr fun i => and_congr_right fun hi => getD_names_iff (h.lt hmembers hi)

/-- Numbers of files stand for different names. -/
theorem Numbers.nodup_map {edges : List (String × String)} (hn : n.Numbers edges)
    {numbers : List Nat} (hsize : ∀ i ∈ numbers, i < n.size) (hnodup : numbers.Nodup) :
    (numbers.map fun i => n.names.getD i "").Nodup := by
  refine hnodup.map_on fun i hi j hj heq => ?_
  exact hn.index_unique ((getD_names_iff (hsize i hi)).1 heq) ((getD_names_iff (hsize j hj)).1 rfl)

end NumberedGraph

namespace Graph

open NumberedGraph

variable {g : Graph} {file other : String} {members : List String}

/-- Sorted lists of the same members are equal. -/
theorem eq_of_sorted {α : Type} [LT α] [Std.Asymm (α := α) (· < ·)] {xs ys : List α}
    (hxs : xs.Pairwise (· < ·)) (hys : ys.Pairwise (· < ·)) (hsame : ∀ x, x ∈ xs ↔ x ∈ ys) :
    xs = ys := by
  have hnodup {zs : List α} (h : zs.Pairwise (· < ·)) : zs.Nodup := by
    refine h.imp fun {a b} hlt heq => ?_
    rw [heq] at hlt
    exact Std.Asymm.asymm b b hlt hlt
  have hperm : xs.Perm ys := (List.perm_ext_iff_of_nodup (hnodup hxs) (hnodup hys)).2 hsame
  refine hperm.eq_of_pairwise ?_ hxs hys
  intro a b _ _ hlt hgt
  exact absurd hgt (Std.Asymm.asymm a b hlt)

/-! ## Lists of cycles -/

/-- The cycles of a graph: the files on a way to themselves, those together that are on ways to each
other, each once, and all in order. -/
structure AreCycles (g : Graph) (cycles : List (List String)) : Prop where
  occurs : ∀ file, (∃ members ∈ cycles, file ∈ members) ↔ g.Reaches file file
  together : ∀ file other, (∃ members ∈ cycles, file ∈ members ∧ other ∈ members) ↔
    g.Reaches file other ∧ g.Reaches other file
  filled : ∀ members ∈ cycles, members ≠ []
  once : cycles.flatten.Nodup
  sorted : ∀ members ∈ cycles, members.Pairwise (· < ·)
  ordered : cycles.Pairwise (· < ·)

section Unique

variable {cycles others : List (List String)}

/-- **A cycle is told by any of its files**, for no other cycle has it. -/
theorem AreCycles.mem_iff (h : g.AreCycles cycles) (hmembers : members ∈ cycles)
    (hfile : file ∈ members) : other ∈ members ↔ g.Reaches file other ∧ g.Reaches other file := by
  rw [← h.together]
  constructor
  · exact fun hother => ⟨members, hmembers, hfile, hother⟩
  · rintro ⟨members', hmembers', hfile', hother⟩
    have hapart := (List.nodup_flatten.1 h.once).2
    have hsymm : Std.Symm (List.Disjoint (α := String)) :=
      ⟨fun _ _ hdisjoint _ hin hin' => hdisjoint hin' hin⟩
    by_cases hsame : members' = members
    · rwa [← hsame]
    · exact absurd hfile (hapart.forall hmembers' hmembers hsame hfile')

theorem AreCycles.subset (h : g.AreCycles cycles) (h' : g.AreCycles others) : cycles ⊆ others := by
  intro members hmembers
  obtain ⟨file, hfile⟩ := List.exists_mem_of_ne_nil members (h.filled members hmembers)
  have hself : g.Reaches file file := (h.occurs file).1 ⟨members, hmembers, hfile⟩
  obtain ⟨members', hmembers', hfile'⟩ := (h'.occurs file).2 hself
  have hsame : members = members' := by
    refine eq_of_sorted (h.sorted _ hmembers) (h'.sorted _ hmembers') fun other => ?_
    rw [h.mem_iff hmembers hfile, h'.mem_iff hmembers' hfile']
  rwa [hsame]

theorem AreCycles.unique (h : g.AreCycles cycles) (h' : g.AreCycles others) : cycles = others :=
  eq_of_sorted h.ordered h'.ordered fun _ =>
    ⟨fun hmembers => h.subset h' hmembers, fun hmembers => h'.subset h hmembers⟩

end Unique

/-! ## The cycles among components -/

variable {components : List (List Nat)}

theorem mem_cyclesAmong_iff : members ∈ g.cyclesAmong components ↔
    ∃ component ∈ components, (ofGraph g).isCycle component ∧
      (ofGraph g).files component = members := by
  rw [cyclesAmong, mem_sortedBy, List.mem_map]
  exact exists_congr fun component => by rw [List.mem_filter, and_assoc]

/-- Two files are in one cycle if there are ways from each of them to the other. -/
theorem together_cyclesAmong (h : (ofGraph g).AreComponents components) (file other : String) :
    (∃ members ∈ g.cyclesAmong components, file ∈ members ∧ other ∈ members) ↔
      g.Reaches file other ∧ g.Reaches other file := by
  have hknown (i j : Nat) (hleads : (ofGraph g).Leads i j) : j < (ofGraph g).size := by
    obtain ⟨-, _, -, hj, -⟩ := leads_ofGraph_iff.1 hleads
    exact hj.lt
  constructor
  · rintro ⟨members, hmembers, hfile, hother⟩
    obtain ⟨component, hcomponent, hcycle, rfl⟩ := mem_cyclesAmong_iff.1 hmembers
    obtain ⟨i, hi, hfile⟩ := (h.mem_files_iff hcomponent).1 hfile
    obtain ⟨j, hj, hother⟩ := (h.mem_files_iff hcomponent).1 hother
    obtain ⟨-, hthere, hback⟩ := (h.together _ hcomponent i hi j).1 hj
    have hself : TransGen (ofGraph g).Leads i i := (h.isCycle_iff hknown hcomponent hi).1 hcycle
    have hself' : TransGen (ofGraph g).Leads j j := (h.isCycle_iff hknown hcomponent hj).1 hcycle
    exact ⟨(reaches_iff hfile hother).1 (hself.trans_left hthere),
      (reaches_iff hother hfile).1 (hself'.trans_left hback)⟩
  · rintro ⟨hthere, hback⟩
    obtain ⟨i, hi⟩ := exists_number_of_reaches hthere
    obtain ⟨j, hj⟩ := exists_number_of_reaches hback
    have hway := (reaches_iff hi hj).2 hthere
    have hway' := (reaches_iff hj hi).2 hback
    obtain ⟨component, hcomponent, hin⟩ := (h.covered i).2 hi.lt
    have hin' : j ∈ component :=
      (h.together _ hcomponent i hin j).2 ⟨hj.lt, hway.to_reflTransGen, hway'.to_reflTransGen⟩
    have hcycle := (h.isCycle_iff hknown hcomponent hin).2 (hway.trans hway')
    exact ⟨_, mem_cyclesAmong_iff.2 ⟨component, hcomponent, hcycle, rfl⟩,
      (h.mem_files_iff hcomponent).2 ⟨i, hin, hi⟩, (h.mem_files_iff hcomponent).2 ⟨j, hin', hj⟩⟩

/-- No file occurs twice, for its number does not. -/
theorem nodup_flatten_cyclesAmong (h : (ofGraph g).AreComponents components) :
    (g.cyclesAmong components).flatten.Nodup := by
  have hsorted : (g.cyclesAmong components).flatten.Perm
      ((components.filter (ofGraph g).isCycle).flatten.map fun i =>
        (ofGraph g).names.getD i "") := by
    have hcycles := (perm_sortedBy (fun a b => decide ¬ b < a)
      ((components.filter (ofGraph g).isCycle).map (ofGraph g).files)).flatten
    rw [← List.flatMap_def] at hcycles
    rw [List.map_flatten, ← List.flatMap_def]
    exact hcycles.trans (List.Perm.flatMap_left _ fun component _ => perm_sortedBy ..)
  have hsome : (components.filter (ofGraph g).isCycle).flatten.Sublist components.flatten :=
    List.filter_sublist.flatten
  refine hsorted.nodup_iff.2 ((numbers_ofGraph g).nodup_map (fun i hi => ?_) (h.once.sublist hsome))
  exact (h.covered i).1 (List.mem_flatten.1 (hsome.subset hi))

theorem filled_cyclesAmong (h : (ofGraph g).AreComponents components) :
    ∀ members ∈ g.cyclesAmong components, members ≠ [] := by
  intro members hmembers hempty
  obtain ⟨component, hcomponent, -, rfl⟩ := mem_cyclesAmong_iff.1 hmembers
  obtain ⟨i, hi⟩ := List.exists_mem_of_ne_nil _ (h.filled component hcomponent)
  obtain ⟨name, hname⟩ := exists_names (h.lt hcomponent hi)
  have hin := (h.mem_files_iff hcomponent).2 ⟨i, hi, hname⟩
  rw [hempty] at hin
  cases hin

/-- Two equal lists would have their members twice. -/
theorem nodup_of_flatten {lists : List (List String)} (h : lists.flatten.Nodup)
    (hfilled : ∀ members ∈ lists, members ≠ []) : lists.Nodup := by
  refine (List.nodup_flatten.1 h).2.imp_of_mem fun {members others} hmembers _ hapart heq => ?_
  obtain ⟨file, hfile⟩ := List.exists_mem_of_ne_nil members (hfilled members hmembers)
  exact hapart hfile (heq ▸ hfile)

/-- **The cycles among strongly connected components** are the cycles of the graph. -/
theorem areCycles_cyclesAmong (h : (ofGraph g).AreComponents components) :
    g.AreCycles (g.cyclesAmong components) where
  occurs file := by
    have htogether := together_cyclesAmong h file file
    rwa [and_self, exists_congr fun members => by rw [and_self]] at htogether
  together := together_cyclesAmong h
  filled := filled_cyclesAmong h
  once := nodup_flatten_cyclesAmong h
  sorted members hmembers := by
    obtain ⟨component, hcomponent, -, rfl⟩ := mem_cyclesAmong_iff.1 hmembers
    refine pairwise_lt_sortedBy (fun a b => by simp) ?_
    exact (numbers_ofGraph g).nodup_map (fun i => h.lt hcomponent) (h.nodup hcomponent)
  ordered := by
    refine pairwise_lt_sortedBy (fun a b => by simp)
      ((perm_sortedBy (fun a b => decide ¬ b < a) _).nodup_iff.1 ?_)
    exact nodup_of_flatten (nodup_flatten_cyclesAmong h) (filled_cyclesAmong h)

end Graph

/-- **The cycles of a project** are the cycles of its imports, and nothing else is: a file is in one
of them exactly if a chain of imports leads from it to itself, two files are in the same one exactly
if such chains lead from each of them to the other, no file occurs twice, and both the cycles and
the files in them are in order. It does not matter which strongly connected components they are taken
from, and in which order these come. -/
theorem Project.areCycles_iff (p : Project) {components : List (List Nat)}
    (h : (NumberedGraph.ofGraph p.importGraph).AreComponents components)
    (cycles : List (List String)) :
    (p.importGraph.AreCycles cycles ↔ cycles = p.importGraph.cyclesAmong components) ∧
      p.cycles = p.importGraph.cyclesAmong components := by
  have hcycles := Graph.areCycles_cyclesAmong h
  have hown : p.importGraph.AreCycles p.cycles :=
    Graph.areCycles_cyclesAmong (NumberedGraph.areComponents_components _)
  refine ⟨⟨fun hthese => hthese.unique hcycles, ?_⟩, hown.unique hcycles⟩
  rintro rfl
  exact hcycles

/-- Two circles with a file in common are one, a file that imports itself is a circle of its own, and
the components come in another order here than the program's own search finds them in. -/
theorem Project.areCycles_iff_of_five_files :
    let edges :=
      [("a", "b"), ("b", "a"), ("b", "c"), ("c", "b"), ("c", "d"), ("d", "d"), ("d", "e")]
    let p : Project := { importGraph := .linkPairs .empty edges }
    p.cycles = [["a", "b", "c"], ["d"]] ∧ p.importGraph.AreCycles [["a", "b", "c"], ["d"]] := by
  intro edges p
  have hown : (NumberedGraph.ofGraph p.importGraph).components = [[0, 1, 2], [3], [4]] := by
    decide +kernel
  have hfound : (NumberedGraph.ofGraph p.importGraph).AreComponents [[4], [3], [2, 1, 0]] := by
    refine (NumberedGraph.areComponents_components _).rearranged ?_ ?_ ?_
    · rw [hown]
      decide
    · rw [hown]
      decide
    · decide
  have hcycles : [["a", "b", "c"], ["d"]] = p.importGraph.cyclesAmong [[4], [3], [2, 1, 0]] := by
    decide +kernel
  obtain ⟨hiff, hsame⟩ := Project.areCycles_iff p hfound [["a", "b", "c"], ["d"]]
  exact ⟨hsame.trans hcycles.symm, hiff.2 hcycles⟩

end CodeSnapshot
