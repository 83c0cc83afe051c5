import CodeSnapshot.Json.Basic
import CodeSnapshot.Sorted.Map

/-!
# JSON with sorted fields
-/

namespace CodeSnapshot.Json

mutual

/-- The value with the fields of all objects in ascending order of their names. -/
def sorted : Json → Json
  | .list items => .list (sortedItems items)
  | .object fields => .object (StringMap.ofList (sortedFields fields)).entries
  | .null => .null
  | .bool b => .bool b
  | .int n => .int n
  | .double x => .double x
  | .single x => .single x
  | .text s => .text s

def sortedItems : List Json → List Json
  | [] => []
  | item :: items => item.sorted :: sortedItems items

def sortedFields : List (String × Json) → List (String × Json)
  | [] => []
  | (name, value) :: fields => (name, value.sorted) :: sortedFields fields

end

end CodeSnapshot.Json
