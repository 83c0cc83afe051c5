import CodeSnapshot.Proofs.Project.ReachedFiles

/-!
# Numbered files — the graph of numbers has the ways of the graph of files

A graph of numbers grows file by file, and with each file edge by edge. A name that is met again
keeps its number, so that the numbers already given, and the edges between them, stay.

* **`Numbers`** — the invariant: names are numbered once, and the edges between their numbers are the
  edges between them. `Numbers.enter`, `Numbers.link` and `Numbers.add` are its steps.
* **`numbers_ofGraph`** — the run: all edges of the graph of files are there.
* **`reaches_iff`** — the headline: ways between numbers are ways between the files they stand for.
-/

namespace CodeSnapshot

namespace NumberedGraph

open Relation

variable {n : NumberedGraph} {edges : List (String × String)} {i j : Nat} {file name other : String}

/-- A number stands for a name. -/
def Names (n : NumberedGraph) (i : Nat) (name : String) : Prop :=
  n.names[i]? = some name

theorem Names.lt (h : n.Names i name) : i < n.size :=
  (List.getElem?_eq_some_iff.1 h).1

theorem Names.unique (h : n.Names i name) (h' : n.Names i other) : name = other :=
  Option.some.inj (h.symm.trans h')

theorem exists_names (h : i < n.size) : ∃ name, n.Names i name :=
  ⟨_, List.getElem?_eq_getElem h⟩

/-- The numbers and edges of some edges between names. -/
structure Numbers (n : NumberedGraph) (edges : List (String × String)) : Prop where
  distinct : n.names.Nodup
  known : ∀ e ∈ edges, e.1 ∈ n.names ∧ e.2 ∈ n.names
  leads : ∀ i j, n.Leads i j ↔ ∃ e ∈ edges, n.Names i e.1 ∧ n.Names j e.2

theorem Numbers.index_unique (h : n.Numbers edges) (hi : n.Names i name) (hj : n.Names j name) :
    i = j :=
  (List.getElem?_inj hi.lt h.distinct).1 (hi.trans hj.symm)

/-! ## Steps -/

/-- What becomes of the names when one is entered. -/
theorem enter_cases (n : NumberedGraph) (name : String) :
    (∃ i, n.Names i name ∧ n.enter name = (i, n)) ∨
      name ∉ n.names ∧
        n.enter name = (n.names.length, { n with names := n.names ++ [name] }) := by
  unfold enter
  cases hfound : n.names.idxOf? name with
  | some i =>
    obtain ⟨hi, hname, -⟩ := List.idxOf?_eq_some_iff.1 hfound
    exact .inl ⟨i, List.getElem?_eq_some_iff.2 ⟨hi, hname⟩, rfl⟩
  | none => exact .inr ⟨List.idxOf?_eq_none_iff.1 hfound, rfl⟩

theorem names_enter (n : NumberedGraph) (name : String) :
    (n.enter name).2.Names (n.enter name).1 name := by
  rcases enter_cases n name with ⟨i, hi, heq⟩ | ⟨-, heq⟩
  · rwa [heq]
  · rw [heq]
    exact List.getElem?_concat_length

/-- **Names keep their numbers.** -/
theorem Names.enter (h : n.Names i file) (name : String) : (n.enter name).2.Names i file := by
  rcases enter_cases n name with ⟨j, -, heq⟩ | ⟨-, heq⟩
  · rwa [heq]
  · rw [heq]
    exact (List.getElem?_append_left h.lt).trans h

theorem Numbers.enter (h : n.Numbers edges) (name : String) : (n.enter name).2.Numbers edges := by
  rcases enter_cases n name with ⟨i, -, heq⟩ | ⟨hnew, heq⟩
  · rwa [heq]
  · rw [heq]
    -- the names of the edges are old ones, and these have the numbers that they had
    have hnames {old : String} (hold : old ∈ n.names) (k : Nat) :
        (n.names ++ [name])[k]? = some old ↔ n.Names k old := by
      constructor
      · intro hk
        rw [List.getElem?_append] at hk
        split at hk
        · exact hk
        · have hlast : old ∈ [name] := List.mem_of_getElem? hk
          rw [List.mem_singleton.1 hlast] at hold
          exact absurd hold hnew
      · intro hk
        exact (List.getElem?_append_left hk.lt).trans hk
    constructor
    case distinct => exact List.nodup_append.2 ⟨h.distinct, List.nodup_singleton name, by
      intro old hold last hlast heq
      rw [heq, List.mem_singleton.1 hlast] at hold
      exact hnew hold⟩
    case known =>
      intro e he
      exact ⟨List.mem_append_left _ (h.known e he).1, List.mem_append_left _ (h.known e he).2⟩
    case leads =>
      intro i j
      refine (h.leads i j).trans (exists_congr fun e => and_congr_right fun he => ?_)
      exact and_congr (hnames (h.known e he).1 i).symm (hnames (h.known e he).2 j).symm

theorem Names.link (h : n.Names i file) (start : Nat) (name : String) :
    (n.link start name).Names i file :=
  h.enter name

theorem Numbers.link (h : n.Numbers edges) (hi : n.Names i file) (name : String) :
    (n.link i name).Numbers (edges ++ [(file, name)]) := by
  have hstep := h.enter name
  have hold : (n.enter name).2.Names i file := hi.enter name
  have hnew := names_enter n name
  constructor
  case distinct => exact hstep.distinct
  case known =>
    intro e he
    rcases List.mem_append.1 he with he | he
    · exact hstep.known e he
    · obtain rfl := List.mem_singleton.1 he
      exact ⟨List.mem_of_getElem? hold, List.mem_of_getElem? hnew⟩
  case leads =>
    intro k l
    have hadded : (n.link i name).Leads k l ↔
        (k, l) = (i, (n.enter name).1) ∨ (n.enter name).2.Leads k l :=
      List.mem_cons
    rw [hadded, hstep.leads]
    constructor
    · rintro (heq | ⟨e, he, hk, hl⟩)
      · obtain ⟨rfl, rfl⟩ := Prod.mk.inj heq
        exact ⟨(file, name), List.mem_append_right _ (List.mem_singleton.2 rfl), hold, hnew⟩
      · exact ⟨e, List.mem_append_left _ he, hk, hl⟩
    · rintro ⟨e, he, hk, hl⟩
      rcases List.mem_append.1 he with he | he
      · exact .inr ⟨e, he, hk, hl⟩
      · obtain rfl := List.mem_singleton.1 he
        exact .inl (Prod.ext (hstep.index_unique hk hold) (hstep.index_unique hl hnew))

theorem Numbers.add (h : n.Numbers edges) (file : String) (targets : List String) :
    (n.add file targets).Numbers (edges ++ targets.map (file, ·)) := by
  have hlinks {n : NumberedGraph} {edges : List (String × String)} {start : Nat}
      (h : n.Numbers edges) (hstart : n.Names start file) :
      (targets.foldl (·.link start) n).Numbers (edges ++ targets.map (file, ·)) := by
    induction targets generalizing n edges with
    | nil => simpa using h
    | cons target targets ih =>
      have hrest := ih (h.link hstart target) (hstart.link start target)
      rwa [List.append_assoc] at hrest
  exact hlinks (h.enter file) (names_enter n file)

/-! ## The graph of numbers of a graph of files -/

/-- **All edges have their numbers.** -/
theorem numbers_ofGraph (g : Graph) : (ofGraph g).Numbers g.edges := by
  have hrun (entries : List (String × StringSet)) {n : NumberedGraph}
      {edges : List (String × String)} (h : n.Numbers edges) :
      (entries.foldl (fun n entry => n.add entry.1 entry.2.toList) n).Numbers
        (edges ++ entries.flatMap fun entry => entry.2.toList.map (entry.1, ·)) := by
    induction entries generalizing n edges with
    | nil => simpa using h
    | cons entry entries ih =>
      have hrest := ih (h.add entry.1 entry.2.toList)
      rwa [List.append_assoc] at hrest
  have hempty : ({} : NumberedGraph).Numbers [] := ⟨List.nodup_nil, nofun, by simp [Leads]⟩
  exact hrun g.entries hempty

variable {g : Graph}

theorem leads_ofGraph_iff : (ofGraph g).Leads i j ↔
    ∃ file other, (ofGraph g).Names i file ∧ (ofGraph g).Names j other ∧ g.Leads file other := by
  rw [(numbers_ofGraph g).leads]
  constructor
  · rintro ⟨⟨file, other⟩, he, hi, hj⟩
    exact ⟨file, other, hi, hj, Graph.mem_edges_iff.1 he⟩
  · rintro ⟨file, other, hi, hj, hleads⟩
    exact ⟨(file, other), Graph.mem_edges_iff.2 hleads, hi, hj⟩

/-- A file on an edge has a number. -/
theorem exists_number_of_leads (h : g.Leads file other) :
    (∃ i, (ofGraph g).Names i file) ∧ ∃ j, (ofGraph g).Names j other := by
  have hknown := (numbers_ofGraph g).known (file, other) (Graph.mem_edges_iff.2 h)
  exact ⟨List.mem_iff_getElem?.1 hknown.1, List.mem_iff_getElem?.1 hknown.2⟩

theorem exists_number_of_reaches (h : g.Reaches file other) : ∃ i, (ofGraph g).Names i file := by
  obtain ⟨next, hleads, -⟩ := TransGen.head'_iff.1 h
  exact (exists_number_of_leads hleads).1

/-- **Ways between numbers are ways between files.** -/
theorem reaches_iff (hi : (ofGraph g).Names i file) (hj : (ofGraph g).Names j other) :
    TransGen (ofGraph g).Leads i j ↔ g.Reaches file other := by
  constructor
  · intro h
    induction h generalizing other with
    | single hleads =>
      obtain ⟨file', other', hi', hj', hfiles⟩ := leads_ofGraph_iff.1 hleads
      rw [hi.unique hi', hj.unique hj']
      exact .single hfiles
    | tail _ hleads ih =>
      obtain ⟨middle, other', hmiddle, hj', hfiles⟩ := leads_ofGraph_iff.1 hleads
      rw [hj.unique hj']
      exact (ih hmiddle).tail hfiles
  · intro h
    induction h generalizing j with
    | single hleads => exact .single (leads_ofGraph_iff.2 ⟨_, _, hi, hj, hleads⟩)
    | tail _ hleads ih =>
      obtain ⟨⟨k, hk⟩, -⟩ := exists_number_of_leads hleads
      exact (ih hk).tail (leads_ofGraph_iff.2 ⟨_, _, hk, hj, hleads⟩)

end NumberedGraph

end CodeSnapshot
