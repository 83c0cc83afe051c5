import CodeSnapshot.Query.Expr
import CodeSnapshot.Query.Operator

/-!
# What can go wrong with a command

A command may not be an expression, or an operator may refuse what it is given. Places in a command
are counted in bytes of its UTF-8 form.
-/

namespace CodeSnapshot

/-- Why a text is not an expression. -/
inductive SyntaxFault where
  | unterminatedText
  | emptyInput
  | unexpectedClose
  | unbalancedOpen
  | tooDeep
  | trailingInput
  | emptyApplication
  deriving Repr, DecidableEq

def SyntaxFault.message : SyntaxFault → String
  | unterminatedText => "unterminated string"
  | emptyInput => "empty input"
  | unexpectedClose => "unexpected ')'"
  | unbalancedOpen => "unbalanced '('"
  | tooDeep => "expression nested too deeply"
  | trailingInput => "unexpected input after expression"
  | emptyApplication => "empty application"

/-- The kinds of values. -/
inductive Kind where
  | null
  | bool
  | number
  | text
  | hit
  | list
  | record
  deriving Repr, DecidableEq

def Kind.name : Kind → String
  | null => "null"
  | bool => "bool"
  | number => "number"
  | text => "string"
  | hit => "match"
  | list => "list"
  | record => "record"

/-- What an operator wants where it is given something else. -/
inductive Wanted where
  | list
  | text
  | number
  deriving Repr, DecidableEq

def Wanted.name : Wanted → String
  | list => "a list"
  | text => "a string"
  | number => "a number"

/-- Why a command fails. -/
inductive QueryError where
  | malformed (position : Nat) (fault : SyntaxFault)
  | unknownOperator (name : String)
  | lambdaShape (op : Operator) (found : Expr)
  | arity (op : Operator) (given : Nat)
  | unsupportedFlag (op : Operator) (flag : Char)
  | invalidPattern (op : Operator) (detail : String)
  | wrongKind (op : Operator) (wanted : Wanted) (given : Kind)
  | notNumeric (op : Operator) (text : String)
  /-- no answer of the operator: the program breaks off there -/
  | brokenOff (op : Operator)
  deriving Repr

namespace QueryError

def message : QueryError → String
  | malformed position fault => s!"Parse error at {position}: " ++ fault.message
  | unknownOperator name => "Unknown operator: " ++ name
  | lambdaShape op found =>
    op.name ++ ": expected (lambda (param) body), got " ++ found.render
  | arity op given => op.name ++ ": expected " ++ op.usage ++ s!", got {given} argument(s)"
  | unsupportedFlag op flag => op.name ++ s!": invalid pattern: unsupported flag '{flag}'"
  | invalidPattern op detail => op.name ++ ": invalid pattern: " ++ detail
  | wrongKind op wanted given => op.name ++ ": expected " ++ wanted.name ++ ", got " ++ given.name
  | notNumeric op text => op.name ++ ": expected a number, got " ++ Text.quoted text
  | brokenOff _ => "user-provided comparison function does not correctly implement a total order"

/-- The name of the operator that an error is about. -/
def operatorName? : QueryError → Option String
  | malformed .. => none
  | unknownOperator name => some name
  | lambdaShape op _ | arity op _ | unsupportedFlag op _ | invalidPattern op _ | wrongKind op _ _
  | notNumeric op _ | brokenOff op => some op.name

/-- Whether the program breaks off. -/
def breaksOff : QueryError → Bool
  | brokenOff _ => true
  | _ => false

end QueryError

end CodeSnapshot
