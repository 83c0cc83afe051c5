import CodeSnapshot.Project.Statement
import CodeSnapshot.Text.Blank
import CodeSnapshot.Text.Piece

/-!
# Imports

The import statements of a source file, among them dynamic imports and exports from another file.
Each kind has a pattern, and one match of it gives one edge.
-/

namespace CodeSnapshot

/-- One import: the file it stands in, the specifier as written, the file of the project it stands
for (if any), and the names it brings in. -/
structure ImportEdge where
  source : String
  specifier : String
  resolved : Option String := none
  symbols : List String
  isDefault : Bool
  isType : Bool
  line : Nat
  deriving Repr, DecidableEq, Inhabited

namespace ImportEdge

open Pattern Statement Text

/-- What a match says about an import, without the place where it stands. -/
structure Clause where
  specifier : String
  symbols : List String := []
  isDefault : Bool := false
  isType : Bool := false
  deriving Repr, DecidableEq

/-- A kind of import statement: its pattern, and what a match says. -/
structure Form where
  pattern : Pattern
  clause : Match → Clause

/-- The word `type` and the gap behind it, if they are there. -/
def typeMark (number : Nat) : Pattern :=
  maybe (.group number (.seq (word "type") gap))

/-- A name for the default export and a comma, if they are there. -/
def defaultMark (number : Nat) : Pattern :=
  maybe (chain [.group number name, space, char ',', space])

/-- The names in a list between braces: of `a as b` the first, and without the word `type`. -/
def names (list : List Char) : List String :=
  (splitAt ',' list).filterMap fun item =>
    let item := trim item
    let item := (after? "type ".toList item).getD item
    (words item).head?.map String.ofList

/-- A namespace under a name. -/
def namespaceSymbol (name : String) : String :=
  "* as " ++ name

/-- The default name of a group, if it took part, before other names. -/
def withDefault (m : Match) (number : Nat) (others : List String) : List String :=
  if has m number then textOf m number :: others else others

/-- `import type d, { a, b as c } from 'x'` -/
def named : Form where
  pattern := chain
    [indent, word "import", gap, typeMark 1, defaultMark 2, char '\x7b', .group 3 (upTo '\x7d'),
     char '\x7d', space, word "from", space, quoted 4]
  clause m :=
    { specifier := textOf m 4, symbols := withDefault m 2 (names (textOf m 3).toList)
      isDefault := has m 2, isType := has m 1 }

/-- `import d, * as n from 'x'` -/
def wholeModule : Form where
  pattern := chain
    [indent, word "import", gap, typeMark 1, defaultMark 2, char '*', space, word "as", gap,
     .group 3 name, gap, word "from", space, quoted 4]
  clause m :=
    { specifier := textOf m 4, symbols := withDefault m 2 [namespaceSymbol (textOf m 3)]
      isDefault := has m 2, isType := has m 1 }

/-- `import d from 'x'` -/
def defaultOnly : Form where
  pattern := chain
    [indent, word "import", gap, typeMark 1, .group 2 name, gap, word "from", space, quoted 3]
  clause m :=
    { specifier := textOf m 3, symbols := [textOf m 2], isDefault := true, isType := has m 1 }

/-- `import 'x'` -/
def bare : Form where
  pattern := chain [indent, word "import", space, quoted 1]
  clause m := { specifier := textOf m 1 }

/-- A call with a quoted specifier. -/
def call (function : String) : Form where
  pattern := chain
    [edge, word function, space, char '(', space, quoted 1, space, char ')']
  clause m := { specifier := textOf m 1 }

/-- `export { a, b as c } from 'x'` -/
def namedAgain : Form where
  pattern := chain
    [indent, word "export", gap, typeMark 1, char '\x7b', .group 2 (upTo '\x7d'), char '\x7d',
     space, word "from", space, quoted 3]
  clause m :=
    { specifier := textOf m 3, symbols := names (textOf m 2).toList, isType := has m 1 }

/-- `export * from 'x'` and `export * as n from 'x'` -/
def allAgain : Form where
  pattern := chain
    [indent, word "export", gap, char '*', space,
     maybe (chain [word "as", gap, .group 1 name, gap]), word "from", space, quoted 2]
  clause m :=
    { specifier := textOf m 2
      symbols := [if has m 1 then namespaceSymbol (textOf m 1) else "*"] }

/-- The kinds of import statements, in the order in which they are looked for. -/
def forms : List Form :=
  [named, wholeModule, defaultOnly, bare, call "import", call "require", namedAgain, allAgain]

/-- The imports of a file, by position. -/
def ofSource (file content : String) : List ImportEdge :=
  let text := content.toList
  let starts := lineStarts text
  let found := forms.flatMap fun form =>
    (form.pattern.matchesIn text).map fun m => (⟨m.whole.start, form.clause m⟩ : Found Clause)
  (Found.sorted found).map fun f =>
    { source := file, specifier := f.item.specifier, symbols := f.item.symbols
      isDefault := f.item.isDefault, isType := f.item.isType, line := lineOf starts f.offset }

end ImportEdge

end CodeSnapshot
