import CodeSnapshot.Decimal.Double

/-!
# TOML values

The values of a settings file, and how its lines put them together: a line `key = value` assigns a
value in the table of the header above it, and a header opens a table or adds one to a list of
tables. What a later line may add to a table depends on how the table came to be.
-/

namespace CodeSnapshot

/-- How a table came to be. -/
inductive TableOrigin where
  /-- written between braces; nothing is added to it -/
  | braces
  /-- opened by a header of its own -/
  | header
  /-- on the way to a table that a header opened -/
  | onTheWay
  /-- on the way to a value that a dotted key was assigned -/
  | dotted
  deriving Repr, DecidableEq, Inhabited

/-- A value of a settings file. The fields of a table are in the order of their lines. -/
inductive Toml where
  | text (s : String)
  | int (n : Int)
  | double (x : Double)
  | bool (b : Bool)
  /-- a date, a time, or both; no setting is one, so it is not told which -/
  | moment
  | list (items : List Toml)
  | table (origin : TableOrigin) (fields : List (String × Toml))
  /-- the tables that headers added to a list, newest first -/
  | tables (newestFirst : List (List (String × Toml)))
  deriving Repr, Inhabited

namespace Toml

abbrev Fields := List (String × Toml)

namespace Fields

def get? (fields : Fields) (name : String) : Option Toml :=
  (fields.find? (·.1 == name)).map (·.2)

/-- The fields with another value in the place of the one of that name, or at the end. -/
def put (fields : Fields) (name : String) (value : Toml) : Fields :=
  match fields with
  | [] => [(name, value)]
  | field :: rest =>
    if field.1 = name then (name, value) :: rest else field :: put rest name value

/-- The fields after a value is assigned to a dotted key; nothing if the key is taken. Tables that
were opened by headers or written between braces are not added to. -/
def assign (fields : Fields) : (key : List String) → (value : Toml) → Option Fields
  | [], _ => none
  | [name], value => if (fields.get? name).isSome then none else some (fields.put name value)
  | name :: key, value =>
    match fields.get? name with
    | none => do return fields.put name (.table .dotted (← assign [] key value))
    | some (.table .dotted inner) => do
      return fields.put name (.table .dotted (← assign inner key value))
    | some (.table .onTheWay inner) =>
      if key.length = 1 then none
      else do return fields.put name (.table .onTheWay (← assign inner key value))
    | some (.tables (newest :: older)) =>
      if key.length = 1 then none
      else do return fields.put name (.tables ((← assign newest key value) :: older))
    | some _ => none

/-- Changes the table that a header names, in the newest table of each list on the way to it. -/
def change (fields : Fields) : (key : List String) → (Fields → Option Fields) → Option Fields
  | [], f => f fields
  | name :: key, f =>
    match fields.get? name with
    | none => do return fields.put name (.table .onTheWay (← change [] key f))
    | some (.table .braces _) => none
    | some (.table origin inner) => do return fields.put name (.table origin (← change inner key f))
    | some (.tables (newest :: older)) => do
      return fields.put name (.tables ((← change newest key f) :: older))
    | some _ => none

/-- Opens the table with a name; nothing if it cannot be opened (any more). -/
def openTable (fields : Fields) (name : String) : Option Fields :=
  match fields.get? name with
  | none => some (fields.put name (.table .header []))
  | some (.table .onTheWay inner) => some (fields.put name (.table .header inner))
  | some _ => none

/-- Adds a table to the list of tables with a name. -/
def addTable (fields : Fields) (name : String) : Option Fields :=
  match fields.get? name with
  | none => some (fields.put name (.tables [[]]))
  | some (.tables all) => some (fields.put name (.tables ([] :: all)))
  | some _ => none

/-- The fields that entries assign one after the other. -/
def ofEntries (entries : List (List String × Toml)) : Option Fields :=
  entries.foldlM (fun fields (key, value) => fields.assign key value) []

end Fields

/-- A line of a settings file that says something. -/
inductive Line where
  | entry (key : List String) (value : Toml)
  | table (key : List String)
  | listedTable (key : List String)
  deriving Repr, Inhabited

/-- What some lines have put together, and the key of the last header. -/
structure Draft where
  fields : Fields := []
  header : List String := []
  deriving Repr, Inhabited

/-- Applies an operation to the last part of a header's key. -/
def Draft.atHeader (d : Draft) (key : List String) (f : Fields → String → Option Fields) :
    Option Draft :=
  match key.getLast? with
  | none => none
  | some name => do return ⟨← d.fields.change key.dropLast (f · name), key⟩

/-- What there is after one more line. -/
def Draft.add (d : Draft) : Line → Option Draft
  | .entry key value => do
    return { d with fields := ← d.fields.change d.header (·.assign key value) }
  | .table key => d.atHeader key Fields.openTable
  | .listedTable key => d.atHeader key Fields.addTable

/-- The table that lines make up. -/
def ofLines (lines : List Line) : Option Toml :=
  (lines.foldlM Draft.add {}).map fun d => .table .header d.fields

end Toml

end CodeSnapshot
