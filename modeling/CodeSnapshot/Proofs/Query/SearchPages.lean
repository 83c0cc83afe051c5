import CodeSnapshot.Instances
import CodeSnapshot.Proofs.Document.HitScans
import CodeSnapshot.Query.Eval

/-!
# Search pages — no match is lost between searches, pages and commands

Who searches a document sees its matches in parts: the first ones, up to a limit; a page of them; or
what a command gives. All of these are parts of one list.

* **`search_of_countable`** — a page, where all matches can be counted.
* **`Document.Pages`** — pages asked for one after the other until nothing remains; `exists_pages` and
  `Pages.flatMap_hits` say that this ends, and that the pages make up the list.
* **`grep_eq`** — a command finds what a search with the same pattern finds.
* **`searches_share_matches`** — the headline, for all texts and patterns.
-/

namespace CodeSnapshot

/-- The part of a list of matches that is asked for. -/
def SearchPage.ofHits (all : List Hit) (options : SearchOptions) : SearchPage where
  hits := (all.drop options.offset).take options.maxResults
  count := all.length
  offset := options.offset
  hasMore := options.offset + options.maxResults < all.length

namespace Document

variable {d : Document} {pattern : String} {caseless : Bool} {r : Regex} {options : SearchOptions}

/-! ## One page -/

theorem page_of_countable (h : (d.lines.hits r).length ≤ countLimit) :
    d.page r options = .ofHits (d.lines.hits r) options := by
  rw [page_eq, SearchOptions.stop, SearchPage.ofHits, SearchPage.mk.injEq]
  rcases Nat.le_total (options.offset + options.maxResults) countLimit with hle | hge
  · rw [Nat.min_eq_left hle, List.drop_take, Nat.add_sub_cancel_left]
    exact ⟨rfl, rfl, rfl, rfl⟩
  · -- the end of the page is out of count, but so would be all that is left out
    have hshort : ((d.lines.hits r).drop options.offset).length ≤ options.maxResults := by
      rw [List.length_drop]
      omega
    have hlast : (decide (countLimit < (d.lines.hits r).length)) =
        decide (options.offset + options.maxResults < (d.lines.hits r).length) := by
      rw [decide_eq_decide]
      omega
    rw [Nat.min_eq_right hge, List.take_of_length_le h, List.take_of_length_le hshort]
    exact ⟨rfl, rfl, rfl, hlast⟩

section

variable [Regexes]

theorem search_of_countable (hr : Regex.ofSearch pattern options.caseless = .ok r)
    (h : (d.lines.hits r).length ≤ countLimit) :
    d.search pattern options = .ok (.ofHits (d.lines.hits r) options) := by
  rw [search, hr, ← page_of_countable h]
  rfl

/-! ## All pages -/

/-- The pages of a search: each one begins where the page before it ends, up to the first page behind
which no matches remain. -/
inductive Pages (d : Document) (pattern : String) (caseless : Bool) (size : Nat) :
    (offset : Nat) → List SearchPage → Prop where
  | last (offset : Nat) (page : SearchPage)
      (asked : d.search pattern { caseless, maxResults := size, offset } = .ok page)
      (ends : page.hasMore = false) : Pages d pattern caseless size offset [page]
  | more (offset : Nat) (page : SearchPage) (pages : List SearchPage)
      (asked : d.search pattern { caseless, maxResults := size, offset } = .ok page)
      (goesOn : page.hasMore = true) (rest : Pages d pattern caseless size (offset + size) pages) :
      Pages d pattern caseless size offset (page :: pages)

variable {size : Nat}

/-- Each page but the last one leaves fewer matches, since it is not empty. -/
theorem exists_pages (hr : Regex.ofSearch pattern caseless = .ok r)
    (h : (d.lines.hits r).length ≤ countLimit) (hsize : 1 ≤ size) (offset : Nat) :
    ∃ pages, d.Pages pattern caseless size offset pages := by
  have asked : d.search pattern { caseless, maxResults := size, offset } = .ok _ :=
    search_of_countable hr h
  by_cases hmore : offset + size < (d.lines.hits r).length
  · obtain ⟨pages, hpages⟩ := exists_pages hr h hsize (offset + size)
    exact ⟨_, .more offset _ pages asked (decide_eq_true hmore) hpages⟩
  · exact ⟨_, .last offset _ asked (decide_eq_false hmore)⟩
  termination_by (d.lines.hits r).length - offset

/-- From an offset on, the pages hold the matches from there on. -/
theorem Pages.flatMap_hits (hr : Regex.ofSearch pattern caseless = .ok r)
    (h : (d.lines.hits r).length ≤ countLimit) {offset : Nat} {pages : List SearchPage}
    (hpages : d.Pages pattern caseless size offset pages) :
    pages.flatMap (·.hits) = (d.lines.hits r).drop offset := by
  induction hpages with
  | last offset page asked ends =>
    obtain rfl := Except.ok.inj ((search_of_countable hr h).symm.trans asked)
    -- the last page reaches the end of the list
    have hend : (d.lines.hits r).length ≤ offset + size := Nat.not_lt.1 (of_decide_eq_false ends)
    have hshort : ((d.lines.hits r).drop offset).length ≤ size := by
      rw [List.length_drop]
      omega
    rw [List.flatMap_singleton]
    exact List.take_of_length_le hshort
  | more offset page pages asked goesOn rest ih =>
    obtain rfl := Except.ok.inj ((search_of_countable hr h).symm.trans asked)
    rw [List.flatMap_cons, ih, ← List.drop_drop]
    exact List.take_append_drop size _

end

end Document

namespace Source

variable [Regexes] {s : Source} {pattern : String} {caseless : Bool} {r : Regex}

/-! ## Commands -/

/-- The arguments of a command that finds a pattern, in any case or not. -/
def grepArgs (caseless : Bool) (e : Expr) : List Expr :=
  if caseless then [e, .text "i"] else [e]

theorem pattern_of_ofSearch (op : Operator) (hr : Regex.ofSearch pattern caseless = .ok r) :
    Source.pattern op pattern { caseless } = .ok r := by
  cases hcompiled : Regexes.compile { caseless } pattern with
  | error e =>
    rw [Regex.ofSearch, hcompiled] at hr
    cases hr
  | ok r' =>
    rw [Regex.ofSearch, hcompiled] at hr
    rw [Source.pattern, hcompiled]
    exact congrArg Except.ok (Except.ok.inj hr)

theorem grep_of_pattern {flags : String} {set : Pattern.Flags}
    (hset : grepFlags flags.toList = .ok set) (hr : Source.pattern .grep pattern set = .ok r) :
    s.grep pattern flags = .ok (.list (((s.document.lines.hits r).take s.maxHits).map .hit)) := by
  rw [grep, hset]
  show (Source.pattern .grep pattern set).bind _ = _
  rw [hr, Except.bind, Lines.firstHits, Lines.findHits_some]
  rfl

theorem grep_eq (hr : Regex.ofSearch pattern caseless = .ok r) :
    s.grep pattern (if caseless then "i" else "") =
      .ok (.list (((s.document.lines.hits r).take s.maxHits).map .hit)) := by
  have hset : grepFlags (if caseless then "i" else "").toList = .ok { caseless } := by
    cases caseless
    · rfl
    · rfl
  exact grep_of_pattern hset (pattern_of_ofSearch .grep hr)

theorem eval_grep [Sorting] {e : Expr} {scope : Scope}
    (he : Evaluated.text .grep (s.eval e scope) = .ok pattern) :
    s.eval (.list (.symbol "grep" :: grepArgs caseless e)) scope =
      s.grep pattern (if caseless then "i" else "") := by
  cases caseless with
  | false =>
    show (Evaluated.text .grep (s.eval e scope)).bind (fun pattern => s.grep pattern "") = _
    rw [he]
    rfl
  | true =>
    show (Evaluated.text .grep (s.eval e scope)).bind (fun pattern => s.grep pattern "i") = _
    rw [he]
    rfl

end Source

/-! ## One list -/

/-- **One list of matches.** A search within a limit, a page, all pages of any size together, and a
command of a session give parts of the same matches: nothing is lost, repeated or moved. The matches are
counted, so there are no more of them than a count can tell. -/
theorem searches_share_matches [Regexes] [Sorting] {text pattern path : String} {modified : Nat}
    {caseless : Bool} {r : Regex} (hr : Regex.ofSearch pattern caseless = .ok r)
    (hcount : ((Document.parse path modified text).lines.findHits r none).1.length ≤ countLimit) :
    let d := Document.parse path modified text
    let all := (d.lines.findHits r none).1
    (∀ limit, d.lines.findHits r (some limit) = (all.take limit, decide (limit < all.length))) ∧
    (∀ offset maxResults, d.search pattern { caseless, maxResults, offset } = .ok
      { hits := (all.drop offset).take maxResults
        count := all.length
        offset
        hasMore := offset + maxResults < all.length }) ∧
    (∀ size, 1 ≤ size → (∃ pages, d.Pages pattern caseless size 0 pages) ∧
      ∀ pages, d.Pages pattern caseless size 0 pages → pages.flatMap (·.hits) = all) ∧
    (∀ cap scope e, let source := Source.withMaxHits { document := d } cap
      Evaluated.text .grep (source.eval e scope) = .ok pattern →
      source.eval (.list (.symbol "grep" :: Source.grepArgs caseless e)) scope =
        .ok (.list ((all.take (max 1 cap)).map .hit))) := by
  intro d all
  have hcount : (d.lines.hits r).length ≤ countLimit := hcount
  refine ⟨d.lines.findHits_some r, fun offset maxResults => ?_, fun size hsize => ⟨?_, ?_⟩, ?_⟩
  · exact Document.search_of_countable hr hcount
  · exact Document.exists_pages hr hcount hsize 0
  · exact fun pages hpages => hpages.flatMap_hits hr hcount
  · intro cap scope e source he
    rw [Source.eval_grep he, Source.grep_eq hr, Nat.max_comm]
    rfl

/-- No text that can be held is so long that the matches of a pattern could not be counted. -/
theorem Pattern.countable_findHits (p : Pattern) {text : String} (htext : text.length < countLimit)
    (path : String) (modified : Nat) :
    ((Document.parse path modified text).lines.findHits p.regex none).1.length ≤ countLimit :=
  Nat.le_trans (Lines.length_hits_ofText_le p.length_all_le text) htext

/-- Three matches in two lines on pages of two, and the one that a command gives when it may give
none. -/
theorem searches_share_matches_in_two_lines :
    let text := "xa\r\nAa\n"
    let d := Document.parse "snapshot.txt" 0 text
    let source := Source.withMaxHits { document := d } 0
    let found : List Hit :=
      [⟨"a", "xa", 1, 1, []⟩, ⟨"A", "Aa", 2, 4, []⟩, ⟨"a", "Aa", 2, 5, []⟩]
    (∃ r, Regex.ofSearch "a" true = .ok r ∧ (d.lines.findHits r none).1 = found) ∧
    found.length ≤ countLimit ∧
    (∃ pages, d.Pages "a" true 2 0 pages ∧ pages.flatMap (·.hits) = found) ∧
    source.eval (.list [.symbol "grep", .text "a", .text "i"]) (Scope.root .empty) =
      .ok (.list ((found.take 1).map .hit)) := by
  intro text d source found
  have hread : ((Pattern.read? { caseless := true } "a".toList).map fun p =>
      ((Document.parse "snapshot.txt" 0 "xa\r\nAa\n").lines.findHits p.regex none).1) =
        some [⟨"a", "xa", 1, 1, []⟩, ⟨"A", "Aa", 2, 4, []⟩, ⟨"a", "Aa", 2, 5, []⟩] := rfl
  obtain ⟨p, hp, hall⟩ := Option.map_eq_some_iff.1 hread
  have hr : Regex.ofSearch "a" true = .ok p.regex := by
    rw [Regex.ofSearch]
    simp only [Regexes.compile, hp]
    rfl
  have htext : text.length < countLimit := by decide
  obtain ⟨-, -, hpages, hgrep⟩ :=
    searches_share_matches hr (p.countable_findHits htext "snapshot.txt" 0)
  obtain ⟨pages, hasked⟩ := (hpages 2 (by decide)).1
  refine ⟨⟨p.regex, hr, hall⟩, by decide, ⟨pages, hasked, ?_⟩, ?_⟩
  · rw [(hpages 2 (by decide)).2 pages hasked]
    exact hall
  · have hone := hgrep 0 (Scope.root .empty) (.text "a") rfl
    rw [hall] at hone
    exact hone

end CodeSnapshot
