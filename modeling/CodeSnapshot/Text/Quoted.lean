import CodeSnapshot.Unicode.Property

/-!
# Quoted text

A text between double quotes, in which every character that would not show is escaped: quotes,
backslashes, control characters, and characters that are unassigned, invisible, or that attach to
the character before them.
-/

namespace CodeSnapshot.Text

open Unicode

/-- The categories whose characters do not show. -/
def hiddenCategories : List Category :=
  [.control, .format, .privateUse, .lineSeparator, .paragraphSeparator, .spaceSeparator]

/-- Whether a character shows on its own. -/
def isPrintable (c : Char) : Bool :=
  let n := c.toNat
  if n < 0x7F then 0x20 ≤ n
  else
    match Category.ofCodePoint? n with
    | none => false
    | some k => !hiddenCategories.contains k && !graphemeExtend.contains n

/-- A character as it stands between the quotes. -/
def quoteChar (c : Char) : List Char :=
  match c with
  | '\x00' => ['\\', '0']
  | '\t' => ['\\', 't']
  | '\r' => ['\\', 'r']
  | '\n' => ['\\', 'n']
  | '\\' => ['\\', '\\']
  | '"' => ['\\', '"']
  | c =>
    if isPrintable c then [c]
    else '\\' :: 'u' :: '\x7b' :: (Nat.toDigits 16 c.toNat ++ ['\x7d'])

def quoteChars (text : List Char) : List Char :=
  '"' :: (text.flatMap quoteChar ++ ['"'])

/-- The text between double quotes, with what would not show escaped. -/
def quoted (text : String) : String :=
  String.ofList (quoteChars text.toList)

end CodeSnapshot.Text
