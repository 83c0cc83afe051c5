import CodeSnapshot.Proofs.Project.ReachedFiles
import Mathlib.Data.List.Perm.Subperm

/-!
# Impact distances — who depends on a file, the nearest first

The files that depend on a file are found level by level: a queue holds those whose importers are
still to be looked at. What comes out is told by the shortest chains of importers alone.

* **`Chain`**, **`Distance`** — a chain of edges by its length, and the length of the shortest one.
* **`Frontier`** — the invariant of the queue: its files are queued at their distance, in order and
  on two levels at most, and a file that was seen is queued or has no new neighbours.
  `Frontier.exists_nearer` is what it is for: a file that was not seen is farther away than one of
  the queue.
* **`unreached`** — the edges to files that were not seen. They pay for what is put into the queue,
  so that the fuel of the search is enough.
* **`mem_spread_iff`**, **`pairwise_spread`**, **`spread_prefix`** — what is found, in which order,
  and what a greater limit adds.
* **`impact_nearest`** — the headline, for all projects.
-/

namespace CodeSnapshot

namespace Graph

variable {g : Graph} {file other : String} {n m limit fuel : Nat} {queue : List Reach}
  {seen : List String} {current r : Reach}

/-! ## Chains -/

/-- A chain of so many edges from a file. -/
inductive Chain (g : Graph) (file : String) : Nat → String → Prop where
  | start : Chain g file 0 file
  | next {n : Nat} {mid other : String} (chain : Chain g file n mid) (leads : g.Leads mid other) :
      Chain g file (n + 1) other

/-- How long the shortest chain from one file to another is. -/
structure Distance (g : Graph) (file other : String) (n : Nat) : Prop where
  chain : g.Chain file n other
  least : ∀ m, g.Chain file m other → n ≤ m

theorem Distance.unique (hn : g.Distance file other n) (hm : g.Distance file other m) : n = m :=
  Nat.le_antisymm (hn.least m hm.chain) (hm.least n hn.chain)

theorem distance_zero (g : Graph) (file : String) : g.Distance file file 0 :=
  ⟨.start, fun _ _ => Nat.zero_le _⟩

theorem Distance.pos (h : g.Distance file other n) (hne : other ≠ file) : 1 ≤ n := by
  cases h.chain with
  | start => exact absurd rfl hne
  | next => omega

/-! ## One step of the search -/

/-- The neighbours of a file that were not seen. -/
def fresh (g : Graph) (file : String) (seen : List String) : List String :=
  (g.next file).filter (! seen.contains ·)

theorem mem_fresh_iff : other ∈ g.fresh file seen ↔ g.Leads file other ∧ other ∉ seen := by
  simp [fresh, Leads]

theorem nodup_fresh (g : Graph) (file : String) (seen : List String) :
    (g.fresh file seen).Nodup :=
  (StringSet.nodup_toList _).filter _

/-- What a step puts into the queue. -/
def reachedFrom (g : Graph) (current : Reach) (seen : List String) : List Reach :=
  (g.fresh current.file seen).map fun file => ⟨file, current.distance + 1⟩

theorem mem_reachedFrom_iff :
    r ∈ g.reachedFrom current seen ↔
      r.file ∈ g.fresh current.file seen ∧ r.distance = current.distance + 1 := by
  unfold reachedFrom
  rw [List.mem_map]
  constructor
  · rintro ⟨file, hfile, rfl⟩
    exact ⟨hfile, rfl⟩
  · rintro ⟨hfile, hdistance⟩
    exact ⟨r.file, hfile, by rw [← hdistance]⟩

theorem spread_of_le (h : limit ≤ current.distance) :
    g.spread limit (fuel + 1) (current :: queue) seen = g.spread limit fuel queue seen := by
  rw [spread, if_pos h]

theorem spread_of_lt (h : current.distance < limit) :
    g.spread limit (fuel + 1) (current :: queue) seen =
      g.reachedFrom current seen ++
        g.spread limit fuel (queue ++ g.reachedFrom current seen)
          (g.fresh current.file seen ++ seen) := by
  rw [spread, if_neg (Nat.not_le.2 h)]
  rfl

/-- Nothing is found from files at the limit or beyond it. -/
theorem spread_of_far (h : ∀ r ∈ queue, limit ≤ r.distance) :
    g.spread limit fuel queue seen = [] := by
  induction fuel generalizing queue with
  | zero => rfl
  | succ fuel ih =>
    cases queue with
    | nil => rfl
    | cons current queue =>
      obtain ⟨hcurrent, hqueue⟩ := List.forall_mem_cons.1 h
      rw [spread_of_le hcurrent, ih hqueue]

/-! ## The queue -/

/-- Where the search stands, once it began at a file. -/
structure Frontier (g : Graph) (file : String) (queue : List Reach) (seen : List String) :
    Prop where
  start : file ∈ seen
  queued : ∀ r ∈ queue, g.Distance file r.file r.distance
  ordered : queue.Pairwise fun a b => a.distance ≤ b.distance
  level : ∀ a ∈ queue, ∀ b ∈ queue, b.distance ≤ a.distance + 1
  covered : ∀ x ∈ seen, (∃ r ∈ queue, r.file = x) ∨ ∀ y, g.Leads x y → y ∈ seen

theorem frontier_start (g : Graph) (file : String) : g.Frontier file [⟨file, 0⟩] [file] where
  start := List.mem_singleton_self file
  queued r hr := by
    obtain rfl := List.mem_singleton.1 hr
    exact distance_zero g file
  ordered := List.pairwise_singleton ..
  level a ha b hb := by
    obtain rfl := List.mem_singleton.1 ha
    obtain rfl := List.mem_singleton.1 hb
    exact Nat.le_succ _
  covered x hx := by
    obtain rfl := List.mem_singleton.1 hx
    exact .inl ⟨_, List.mem_singleton_self _, rfl⟩

/-- **What was not seen is farther away** than some file of the queue: a chain to it leaves the
files that were seen at one that is queued. -/
theorem Frontier.exists_nearer (h : g.Frontier file queue seen) (hchain : g.Chain file n other)
    (hnew : other ∉ seen) : ∃ r ∈ queue, r.distance < n := by
  induction hchain with
  | start => exact absurd h.start hnew
  | @next n mid other hchain hleads ih =>
    by_cases hmid : mid ∈ seen
    · rcases h.covered mid hmid with ⟨r, hr, rfl⟩ | hclosed
      · have hleast : r.distance ≤ n := (h.queued r hr).least n hchain
        exact ⟨r, hr, by omega⟩
      · exact absurd (hclosed other hleads) hnew
    · obtain ⟨r, hr, hlt⟩ := ih hmid
      exact ⟨r, hr, by omega⟩

theorem Frontier.head_le (h : g.Frontier file (current :: queue) seen) :
    ∀ r ∈ current :: queue, current.distance ≤ r.distance :=
  List.forall_mem_cons.2 ⟨Nat.le_refl _, (List.pairwise_cons.1 h.ordered).1⟩

theorem Frontier.spread_eq_nil (h : g.Frontier file (current :: queue) seen)
    (hle : limit ≤ current.distance) : g.spread limit fuel (current :: queue) seen = [] :=
  spread_of_far fun r hr => Nat.le_trans hle (h.head_le r hr)

/-- What a step finds is one edge farther away than the file it starts from, and no less. -/
theorem Frontier.distance_fresh (h : g.Frontier file (current :: queue) seen)
    (hfresh : other ∈ g.fresh current.file seen) :
    g.Distance file other (current.distance + 1) := by
  obtain ⟨hleads, hnew⟩ := mem_fresh_iff.1 hfresh
  have hcurrent := h.queued current (List.mem_cons_self ..)
  refine ⟨hcurrent.chain.next hleads, fun m hchain => ?_⟩
  obtain ⟨r, hr, hlt⟩ := h.exists_nearer hchain hnew
  have hle := h.head_le r hr
  omega

theorem Frontier.bounds (h : g.Frontier file (current :: queue) seen)
    (hr : r ∈ queue ++ g.reachedFrom current seen) :
    current.distance ≤ r.distance ∧ r.distance ≤ current.distance + 1 := by
  rcases List.mem_append.1 hr with hold | hnew
  · have hr : r ∈ current :: queue := List.mem_cons_of_mem current hold
    exact ⟨h.head_le r hr, h.level current (List.mem_cons_self ..) r hr⟩
  · have hdistance := (mem_reachedFrom_iff.1 hnew).2
    omega

/-- **A step keeps the invariant.** -/
theorem Frontier.step (h : g.Frontier file (current :: queue) seen) :
    g.Frontier file (queue ++ g.reachedFrom current seen)
      (g.fresh current.file seen ++ seen) where
  start := List.mem_append_right _ h.start
  queued r hr := by
    rcases List.mem_append.1 hr with hold | hnew
    · exact h.queued r (List.mem_cons_of_mem current hold)
    · obtain ⟨hfresh, hdistance⟩ := mem_reachedFrom_iff.1 hnew
      rw [hdistance]
      exact h.distance_fresh hfresh
  ordered := by
    refine List.pairwise_append.2 ⟨(List.pairwise_cons.1 h.ordered).2, ?_, ?_⟩
    · apply List.pairwise_map.2
      exact (nodup_fresh g current.file seen).imp fun _ => Nat.le_refl _
    · intro a ha b hb
      have hle := (h.bounds (List.mem_append_left _ ha)).2
      rwa [(mem_reachedFrom_iff.1 hb).2]
  level a ha b hb := by
    have hlow := (h.bounds ha).1
    have hhigh := (h.bounds hb).2
    omega
  covered x hx := by
    rcases List.mem_append.1 hx with hnew | hold
    · exact .inl ⟨⟨x, current.distance + 1⟩,
        List.mem_append_right _ (mem_reachedFrom_iff.2 ⟨hnew, rfl⟩), rfl⟩
    · rcases h.covered x hold with ⟨r, hr, rfl⟩ | hclosed
      · rcases List.mem_cons.1 hr with rfl | hr
        · -- the neighbours of the file that was taken are all seen now
          refine .inr fun y hleads => List.mem_append.2 ?_
          by_cases hy : y ∈ seen
          · exact .inr hy
          · exact .inl (mem_fresh_iff.2 ⟨hleads, hy⟩)
        · exact .inl ⟨r, List.mem_append_left _ hr, rfl⟩
      · exact .inr fun y hleads => List.mem_append_right _ (hclosed y hleads)

/-! ## The fuel -/

/-- How many edges lead to files that were not seen. -/
def unreached (g : Graph) (seen : List String) : Nat :=
  g.edges.countP fun e => ! seen.contains e.2

/-- What a step puts into the queue is paid for by edges to it. -/
theorem length_fresh_add_le (g : Graph) (file : String) (seen : List String) :
    (g.fresh file seen).length + g.unreached (g.fresh file seen ++ seen) ≤ g.unreached seen := by
  have hnodup : ((g.fresh file seen).map (file, ·)).Nodup :=
    (nodup_fresh g file seen).map fun _ _ heq => (Prod.mk.inj heq).2
  have hsubset : (g.fresh file seen).map (file, ·) ⊆
      g.edges.filter fun e => (g.fresh file seen).contains e.2 := by
    intro e he
    obtain ⟨other, hother, rfl⟩ := List.mem_map.1 he
    have hedge := mem_edges_iff.2 (mem_fresh_iff.1 hother).1
    exact List.mem_filter.2 ⟨hedge, List.contains_iff_mem.2 hother⟩
  have hpaid := (hnodup.subperm hsubset).length_le
  rw [List.length_map, ← List.countP_eq_length_filter] at hpaid
  have hsplit := countP_split (p := fun e => (g.fresh file seen).contains e.2)
    (q := fun e => ! (g.fresh file seen ++ seen).contains e.2)
    (r := fun e => ! seen.contains e.2) (fun e => by
      by_cases hfresh : e.2 ∈ g.fresh file seen
      · simp [hfresh, (mem_fresh_iff.1 hfresh).2]
      · simp [hfresh]) g.edges
  unfold unreached
  omega

theorem fuel_step (h : (current :: queue).length + g.unreached seen < fuel + 1) :
    (queue ++ g.reachedFrom current seen).length +
      g.unreached (g.fresh current.file seen ++ seen) < fuel := by
  have hpaid := length_fresh_add_le g current.file seen
  rw [List.length_cons] at h
  rw [List.length_append, reachedFrom, List.length_map]
  omega

theorem fuel_start (g : Graph) (file : String) :
    [(⟨file, 0⟩ : Reach)].length + g.unreached [file] < g.edges.length + 2 := by
  have hle : g.unreached [file] ≤ g.edges.length := List.countP_le_length
  rw [List.length_singleton]
  omega

/-- **The search comes to its end**: with fuel for all that is left to do, more of it finds no
more. -/
theorem spread_add (hfuel : queue.length + g.unreached seen < fuel) (more : Nat) :
    g.spread limit (fuel + more) queue seen = g.spread limit fuel queue seen := by
  induction fuel generalizing queue seen with
  | zero => omega
  | succ fuel ih =>
    rw [Nat.succ_add]
    cases queue with
    | nil => rfl
    | cons current queue =>
      rcases Nat.lt_or_ge current.distance limit with hlt | hle
      · rw [spread_of_lt hlt, spread_of_lt hlt, ih (fuel_step hfuel)]
      · rw [List.length_cons] at hfuel
        rw [spread_of_le hle, spread_of_le hle, ih (by omega)]

/-! ## What is found -/

/-- **What is found** is what was not seen yet and is not farther away than the limit, each file at
its distance. -/
theorem mem_spread_iff (h : g.Frontier file queue seen)
    (hfuel : queue.length + g.unreached seen < fuel) :
    r ∈ g.spread limit fuel queue seen ↔
      r.file ∉ seen ∧ g.Distance file r.file r.distance ∧ r.distance ≤ limit := by
  induction fuel generalizing queue seen with
  | zero => omega
  | succ fuel ih =>
    cases queue with
    | nil =>
      refine iff_of_false List.not_mem_nil fun ⟨hnew, hdistance, _⟩ => ?_
      obtain ⟨_, hnone, -⟩ := h.exists_nearer hdistance.chain hnew
      exact List.not_mem_nil hnone
    | cons current queue =>
      rcases Nat.lt_or_ge current.distance limit with hlt | hle
      · rw [spread_of_lt hlt, List.mem_append, ih h.step (fuel_step hfuel), List.mem_append,
          mem_reachedFrom_iff]
        constructor
        · rintro (⟨hfresh, hdistance⟩ | ⟨hnew, hrest⟩)
          · refine ⟨(mem_fresh_iff.1 hfresh).2, ?_, by omega⟩
            rw [hdistance]
            exact h.distance_fresh hfresh
          · exact ⟨fun hold => hnew (.inr hold), hrest⟩
        · rintro ⟨hnew, hdistance, hlimit⟩
          by_cases hfresh : r.file ∈ g.fresh current.file seen
          · exact .inl ⟨hfresh, hdistance.unique (h.distance_fresh hfresh)⟩
          · exact .inr ⟨fun hold => hold.elim hfresh hnew, hdistance, hlimit⟩
      · -- the whole queue is at the limit, and what was not seen is beyond it
        rw [h.spread_eq_nil hle]
        refine iff_of_false List.not_mem_nil fun ⟨hnew, hdistance, hlimit⟩ => ?_
        obtain ⟨r', hr', hlt⟩ := h.exists_nearer hdistance.chain hnew
        have hfar := h.head_le r' hr'
        omega

theorem nodup_spread (h : g.Frontier file queue seen)
    (hfuel : queue.length + g.unreached seen < fuel) :
    ((g.spread limit fuel queue seen).map (·.file)).Nodup := by
  induction fuel generalizing queue seen with
  | zero => omega
  | succ fuel ih =>
    cases queue with
    | nil => exact List.nodup_nil
    | cons current queue =>
      rcases Nat.lt_or_ge current.distance limit with hlt | hle
      · rw [spread_of_lt hlt, List.map_append]
        have hfound : (g.reachedFrom current seen).map (·.file) = g.fresh current.file seen := by
          unfold reachedFrom
          rw [List.map_map]
          exact List.map_id _
        rw [hfound]
        refine List.nodup_append.2
          ⟨nodup_fresh g current.file seen, ih h.step (fuel_step hfuel), ?_⟩
        rintro x hx _ hy rfl
        obtain ⟨r, hr, rfl⟩ := List.mem_map.1 hy
        have hnew := ((mem_spread_iff h.step (fuel_step hfuel)).1 hr).1
        exact hnew (List.mem_append_left _ hx)
      · rw [h.spread_eq_nil hle]
        exact List.nodup_nil

theorem pairwise_spread (h : g.Frontier file queue seen)
    (hfuel : queue.length + g.unreached seen < fuel) :
    (g.spread limit fuel queue seen).Pairwise fun a b => a.distance ≤ b.distance := by
  induction fuel generalizing queue seen with
  | zero => omega
  | succ fuel ih =>
    cases queue with
    | nil => exact .nil
    | cons current queue =>
      rcases Nat.lt_or_ge current.distance limit with hlt | hle
      · rw [spread_of_lt hlt]
        have hordered := (List.pairwise_append.1 h.step.ordered).2.1
        refine List.pairwise_append.2 ⟨hordered, ih h.step (fuel_step hfuel), ?_⟩
        -- what this step finds is one edge away from the nearest file, and nothing later is nearer
        intro a ha b hb
        obtain ⟨hnew, hdistance, -⟩ := (mem_spread_iff h.step (fuel_step hfuel)).1 hb
        obtain ⟨r, hr, hlt⟩ := h.step.exists_nearer hdistance.chain hnew
        have hle := (h.bounds hr).1
        have hfound := (mem_reachedFrom_iff.1 ha).2
        omega
      · rw [h.spread_eq_nil hle]
        exact .nil

theorem spread_prefix (h : g.Frontier file queue seen) (more : Nat) :
    g.spread limit fuel queue seen <+: g.spread (limit + more) fuel queue seen := by
  induction fuel generalizing queue seen with
  | zero => exact List.prefix_rfl
  | succ fuel ih =>
    cases queue with
    | nil => exact List.prefix_rfl
    | cons current queue =>
      rcases Nat.lt_or_ge current.distance limit with hlt | hle
      · rw [spread_of_lt hlt, spread_of_lt (Nat.lt_add_right more hlt)]
        exact (List.prefix_append_right_inj _).2 (ih h.step)
      · rw [h.spread_eq_nil hle]
        exact List.nil_prefix

/-! ## Within a number of steps -/

/-- What a list of the files within so many steps of a file is: those that are not the file itself
and have a chain short enough, each once and at its distance, and none before a nearer one. -/
structure IsWithin (g : Graph) (file : String) (limit : Nat) (found : List Reach) : Prop where
  mem_iff : ∀ r, r ∈ found ↔
    r.file ≠ file ∧ g.Distance file r.file r.distance ∧ 1 ≤ r.distance ∧ r.distance ≤ limit
  once : (found.map (·.file)).Nodup
  nearestFirst : found.Pairwise fun a b => a.distance ≤ b.distance

theorem isWithin_within (g : Graph) (file : String) (limit : Nat) :
    g.IsWithin file limit (g.within file limit) where
  mem_iff r := by
    unfold within
    rw [mem_spread_iff (frontier_start g file) (fuel_start g file), List.mem_singleton]
    constructor
    · rintro ⟨hne, hdistance, hlimit⟩
      exact ⟨hne, hdistance, hdistance.pos hne, hlimit⟩
    · rintro ⟨hne, hdistance, -, hlimit⟩
      exact ⟨hne, hdistance, hlimit⟩
  once := nodup_spread (frontier_start g file) (fuel_start g file)
  nearestFirst := pairwise_spread (frontier_start g file) (fuel_start g file)

end Graph

namespace Project

/-- **The files that depend on a file** are found with the lengths of the shortest chains of
importers, the file itself left out; they do not hang on the number of steps that the search is
given, and a greater depth only adds files at the end. -/
theorem impact_nearest (p : Project) (file : String) (maxDepth : Nat) :
    p.reverseGraph.IsWithin (Path.normalize file) maxDepth (p.impact file maxDepth) ∧
    (∀ more, p.impact file maxDepth <+: p.impact file (maxDepth + more)) ∧
    ∀ more, p.reverseGraph.spread maxDepth (p.reverseGraph.edges.length + 2 + more)
      [⟨Path.normalize file, 0⟩] [Path.normalize file] = p.impact file maxDepth := by
  have hfrontier := Graph.frontier_start p.reverseGraph (Path.normalize file)
  have hfuel := Graph.fuel_start p.reverseGraph (Path.normalize file)
  refine ⟨Graph.isWithin_within .., fun more => ?_, fun more => ?_⟩
  · exact Graph.spread_prefix hfrontier more
  · exact Graph.spread_add hfuel more

end Project

end CodeSnapshot
