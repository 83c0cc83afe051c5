import CodeSnapshot.Path

/-!
# Source files and what they import

Which files are read for imports and exports, which specifiers name a file of the project, and
which file such a specifier stands for.
-/

namespace CodeSnapshot

namespace SourceFile

open Text

/-- The extensions of files that are read. -/
def extensions : List String :=
  ["ts", "tsx", "js", "jsx", "mjs", "cjs", "mts", "cts"]

/-- What follows the last dot, if there is one. -/
def extension? (path : List Char) : Option (List Char) :=
  if path.contains '.' then some (path.reverse.takeWhile (· ≠ '.')).reverse else none

/-- Whether a file is read: its extension, in any case, is one of those known. -/
def isSupported (path : String) : Bool :=
  match extension? path.toList with
  | some e => extensions.contains (String.ofList (e.map Char.toLower))
  | none => false

/-- Whether a specifier is relative to the file it stands in. -/
def isRelative (specifier : String) : Bool :=
  specifier = "." || specifier = ".." || "./".toList.isPrefixOf specifier.toList
    || "../".toList.isPrefixOf specifier.toList

/-! ## Resolving -/

/-- What may be added to a specifier, in the order in which it is tried. -/
def suffixes : List String :=
  ["", ".ts", ".tsx", ".js", ".jsx", ".mjs", ".cjs", "/index.ts", "/index.tsx", "/index.js",
   "/index.jsx"]

/-- Extensions that a specifier may have where the file has another one. -/
def replacements : List (String × List String) :=
  [(".js", [".ts", ".tsx"]), (".jsx", [".tsx"]), (".mjs", [".mts"])]

/-- The files that a path without its extension may stand for, in the order in which they are
tried. -/
def candidates (base : String) : List String :=
  suffixes.map (base ++ ·) ++ replacements.flatMap fun (written, actual) =>
    match before? written.toList base.toList with
    | some stem => actual.map (String.ofList stem ++ ·)
    | none => []

/-- The known file that a specifier in a file stands for: the first candidate that is known. A
specifier that is not relative stands for none. -/
def resolve? (known : String → Bool) (file specifier : String) : Option String :=
  if isRelative specifier then
    (Path.join? (Path.parent file) specifier).bind fun base => (candidates base).find? known
  else none

end SourceFile

end CodeSnapshot
