import CodeSnapshot.Project.Signature
import CodeSnapshot.Project.Statement

/-!
# Exports

The export declarations of a source file: what is exported, under which name, and for functions how
they are called.
-/

namespace CodeSnapshot

/-- What is exported. -/
inductive ExportKind where
  | function
  | classType
  | const
  | type
  | interface
  | enum
  | default
  deriving Repr, DecidableEq, Inhabited

def ExportKind.name : ExportKind → String
  | function => "function"
  | classType => "class"
  | const => "const"
  | type => "type"
  | interface => "interface"
  | enum => "enum"
  | default => "default"

/-- One export of a file. -/
structure ExportRecord where
  file : String
  symbol : String
  kind : ExportKind
  signature : Option String := none
  line : Nat
  deriving Repr, DecidableEq, Inhabited

namespace ExportRecord

open Pattern Statement

/-- What a match says about an export, without the place where it stands. -/
structure Clause where
  symbol : String
  kind : ExportKind
  signature : Option String := none
  deriving Repr, DecidableEq

/-- A kind of export declaration: its pattern, and what a match says, given the text that starts
with it. -/
structure Form where
  pattern : Pattern
  clause : Match → List Char → Option Clause

/-- The name under which an unnamed export is known. -/
def defaultName : String := "default"

/-- The word `default` and the gap behind it, if they are there. -/
def defaultMark (number : Nat) : Pattern :=
  maybe (.group number (.seq (word "default") gap))

/-- A word and the gap behind it, if they are there. -/
def modifier (w : String) : Pattern :=
  maybe (.seq (word w) gap)

/-- A declaration under its name, or the default export if it has none. -/
def named (m : Match) (number : Nat) (kind : ExportKind) (signature : Option String) : Clause :=
  if has m number then { symbol := textOf m number, kind, signature }
  else { symbol := defaultName, kind := .default, signature }

/-- `export default async function* f(…): T` -/
def functionForm : Form where
  pattern := chain
    [indent, word "export", gap, defaultMark 1, modifier "async", word "function", edge, space,
     maybe (char '*'), space, maybe (.group 2 name)]
  clause m text :=
    some (named m 2 .function (Signature.ofDeclaration? text m.whole.text.length))

/-- `export default abstract class C` -/
def classForm : Form where
  pattern := chain
    [indent, word "export", gap, defaultMark 1, modifier "abstract", word "class", edge, space,
     maybe (.group 2 name)]
  clause m _ := some (named m 2 .classType none)

/-- `export const x`; `export const enum E` is no such declaration. -/
def variableForm : Form where
  pattern := chain
    [indent, word "export", gap, firstOf [word "const", word "let", word "var"], gap,
     .group 1 name]
  clause m _ :=
    if textOf m 1 = "enum" then none else some { symbol := textOf m 1, kind := .const }

/-- `export type T<A> = …` -/
def typeForm : Form where
  pattern := chain
    [indent, word "export", gap, word "type", gap, .group 1 name, space,
     maybe (chain [char '<', upTo '>', char '>']), space, char '=']
  clause m _ := some { symbol := textOf m 1, kind := .type }

/-- `export interface I` -/
def interfaceForm : Form where
  pattern := chain [indent, word "export", gap, word "interface", gap, .group 1 name]
  clause m _ := some { symbol := textOf m 1, kind := .interface }

/-- `export declare const enum E` -/
def enumForm : Form where
  pattern := chain
    [indent, word "export", gap, modifier "declare", modifier "const", word "enum", gap,
     .group 1 name]
  clause m _ := some { symbol := textOf m 1, kind := .enum }

/-- The words behind `export default` that begin a declaration of another form. -/
def declarationWords : List String := ["function", "async", "class", "abstract"]

/-- `export default` before anything that does not begin a declaration. -/
def defaultForm : Form where
  pattern := chain [indent, word "export", gap, word "default", gap, .group 1 (many nameChar)]
  clause m _ :=
    if declarationWords.contains (textOf m 1) then none
    else some { symbol := defaultName, kind := .default }

/-- The kinds of export declarations, in the order in which they are looked for. -/
def forms : List Form :=
  [functionForm, classForm, variableForm, typeForm, interfaceForm, enumForm, defaultForm]

/-- The exports of a file, by position. -/
def ofSource (file content : String) : List ExportRecord :=
  let text := content.toList
  let starts := lineStarts text
  let found := forms.flatMap fun form =>
    (form.pattern.matchesIn text).filterMap fun m =>
      (form.clause m (text.drop m.whole.start)).map fun c =>
        (⟨m.whole.start, c⟩ : Found Clause)
  (Found.sorted found).map fun f =>
    { file, symbol := f.item.symbol, kind := f.item.kind, signature := f.item.signature
      line := lineOf starts f.offset }

end ExportRecord

end CodeSnapshot
