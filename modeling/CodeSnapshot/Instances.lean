import CodeSnapshot.Query.Sorting
import CodeSnapshot.Regex.Engine

/-!
# What the program runs with

Patterns as the engine for regular expressions, and insertion as the way to sort. Nothing else is defined
with them: they are chosen where the program is put together.
-/

namespace CodeSnapshot

instance : Regexes :=
  Pattern.regexes fun _ text => "regex parse error:\n    " ++ text

instance : Sorting :=
  .byInsertion

end CodeSnapshot
