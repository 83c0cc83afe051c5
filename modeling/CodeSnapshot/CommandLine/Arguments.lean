import CodeSnapshot.Decimal.Text
import CodeSnapshot.Text.Piece

/-!
# Arguments of a command line

What options and operands a command has, and the arguments read by these rules. An argument that
starts with a hyphen and is longer than one character is an option, unless it stands behind the
argument `--`. Options may stand between operands, and each may be given once.
-/

namespace CodeSnapshot.CommandLine

/-- What a text that is given as a value has to be. -/
inductive ValueKind where
  /-- any text -/
  | text
  /-- a text that is not empty -/
  | path
  /-- a number from zero to 2^64 − 1 -/
  | nat
  deriving Repr, DecidableEq

/-- A number from zero to 2^64 − 1. -/
def readNat? (value : String) : Option Nat :=
  Decimal.readNat? (Decimal.twoTo 64) value.toList

def ValueKind.accepts (kind : ValueKind) (value : String) : Bool :=
  match kind with
  | text => true
  | path => !value.isEmpty
  | nat => (readNat? value).isSome

/-- Why the arguments are not read to their end. -/
inductive Halt where
  /-- they break the rules -/
  | misuse
  /-- the version is asked for -/
  | version
  /-- an overview is asked for -/
  | overview
  deriving Repr, DecidableEq

/-- What an option is for. -/
inductive OptionKind where
  | flag
  | value (kind : ValueKind)
  | halt (reason : Halt)
  deriving Repr, DecidableEq

/-- An option: its name, perhaps a letter, and what it is for. Options with values have no letter. -/
structure OptionRule where
  name : String
  letter : Option Char := none
  kind : OptionKind := .flag
  deriving Repr, DecidableEq

/-- The rules for the arguments of a command; the last operand may be given repeatedly if
`repeats`. -/
structure Rules where
  operands : List ValueKind := []
  repeats : Bool := false
  options : List OptionRule := []
  deriving Repr, DecidableEq

/-- Arguments that have been read. -/
structure Arguments where
  operands : List String := []
  flags : List String := []
  values : List (String × String) := []
  deriving Repr, DecidableEq, Inhabited

namespace Arguments

def hasFlag (a : Arguments) (name : String) : Bool :=
  a.flags.contains name

def value? (a : Arguments) (name : String) : Option String :=
  (a.values.find? (·.1 == name)).map (·.2)

/-- The value of an option that is a number. -/
def nat? (a : Arguments) (name : String) : Option Nat :=
  (a.value? name).bind readNat?

end Arguments

/-- What comes of reading some arguments. -/
abbrev Reading := Except Halt

/-- An argument by its form. -/
inductive Form where
  /-- the argument `--`, behind which there are operands only -/
  | endOfOptions
  /-- an option by its name, perhaps with a value -/
  | long (name : String) (value : Option String)
  /-- options by their letters -/
  | short (letters : List Char)
  | operand
  deriving Repr, DecidableEq

/-- The form of an argument. -/
def Form.of (argument : String) : Form :=
  match argument.toList with
  | ['-', '-'] => .endOfOptions
  | '-' :: '-' :: rest =>
    match Text.cutAt? ['='] rest with
    | some (name, value) => .long (String.ofList name) (some (String.ofList value))
    | none => .long (String.ofList rest) none
  | '-' :: c :: rest => .short (c :: rest)
  | _ => .operand

namespace Rules

/-- What the operand at some place has to be. -/
def operandKind? (r : Rules) (place : Nat) : Option ValueKind :=
  match r.operands[place]? with
  | some kind => some kind
  | none => if r.repeats then r.operands.getLast? else none

/-- One more operand. -/
def addOperand (r : Rules) (a : Arguments) (argument : String) : Reading Arguments :=
  match r.operandKind? a.operands.length with
  | some kind =>
    if kind.accepts argument then .ok { a with operands := a.operands ++ [argument] }
    else .error .misuse
  | none => .error .misuse

/-- One more option without a value. -/
def addBare (a : Arguments) (o : OptionRule) : Reading Arguments :=
  match o.kind with
  | .flag =>
    if a.hasFlag o.name then .error .misuse else .ok { a with flags := a.flags ++ [o.name] }
  | .value _ => .error .misuse
  | .halt reason => .error reason

/-- One more option with a value. -/
def addValue (a : Arguments) (o : OptionRule) (value : String) : Reading Arguments :=
  match o.kind with
  | .value kind =>
    if (a.value? o.name).isSome || !kind.accepts value then .error .misuse
    else .ok { a with values := a.values ++ [(o.name, value)] }
  | .flag | .halt _ => .error .misuse

/-- The option with a letter. -/
def addLetter (r : Rules) (a : Arguments) (letter : Char) : Reading Arguments :=
  match r.options.find? (·.letter == some letter) with
  | some o => addBare a o
  | none => .error .misuse

/-- Whether an option takes the next argument as its value. -/
def takesNext (o : OptionRule) : Bool :=
  match o.kind with
  | .value _ => true
  | .flag | .halt _ => false

/-- Reads arguments. When there are no operands, the first argument that is one ends the reading;
what is left then comes with the answer. -/
def read (r : Rules) (a : Arguments) : List String → Reading (Arguments × List String)
  | [] => .ok (a, [])
  | argument :: rest =>
    match Form.of argument with
    | .endOfOptions => do return (← rest.foldlM r.addOperand a, [])
    | .short letters => do read r (← letters.foldlM r.addLetter a) rest
    | .operand =>
      if r.operands.isEmpty then .ok (a, argument :: rest)
      else do read r (← r.addOperand a argument) rest
    | .long name value =>
      match r.options.find? (·.name == name) with
      | none => .error .misuse
      | some o =>
        match value with
        | some value => do read r (← addValue a o value) rest
        | none =>
          if !takesNext o then do read r (← addBare a o) rest
          else
            match rest with
            | value :: rest =>
              if Form.of value = .operand then do read r (← addValue a o value) rest
              else .error .misuse
            | [] => .error .misuse

end Rules

end CodeSnapshot.CommandLine
