import CodeSnapshot.Text.Blank
import CodeSnapshot.Unicode.Fold
import CodeSnapshot.Unicode.Property

/-!
# Classes of characters

A class is a set of characters, written as an expression over ranges and tables. Membership is
decided point by point, so the operations on classes need no normal form.
-/

namespace CodeSnapshot.Pattern

open Unicode

/-- A set of characters. -/
inductive CharClass where
  /-- the characters from one code point to another -/
  | range (first last : Nat)
  /-- the characters of a table -/
  | table (points : List Run)
  | union (a b : CharClass)
  | inter (a b : CharClass)
  | complement (a : CharClass)
  /-- the characters one of whose case variants is in the class -/
  | caseless (a : CharClass)
  /-- the characters one of whose ASCII case variants is in the class -/
  | asciiCaseless (a : CharClass)
  deriving Repr, DecidableEq

namespace CharClass

/-- The ASCII letter of the other case; any other code point stays as it is. -/
def swapAsciiCase (n : Nat) : Nat :=
  if 0x41 ≤ n && n ≤ 0x5A then n + 0x20
  else if 0x61 ≤ n && n ≤ 0x7A then n - 0x20
  else n

/-- Whether an ASCII letter folds with a character beyond ASCII (`k` and `s` do). -/
def foldsBeyondAscii (n : Nat) : Bool :=
  n == 0x4B || n == 0x6B || n == 0x53 || n == 0x73

/-- Case variants of a code point other than itself. -/
def otherVariants (n : Nat) : List Nat :=
  if n < 0x80 && !foldsBeyondAscii n then [swapAsciiCase n] else caseVariants n

/-- Membership by code point. -/
def holds : CharClass → Nat → Bool
  | range first last, n => first ≤ n && n ≤ last
  | table points, n => inRuns points n
  | union a b, n => a.holds n || b.holds n
  | inter a b, n => a.holds n && b.holds n
  | complement a, n => !a.holds n
  | caseless a, n => a.holds n || (otherVariants n).any a.holds
  | asciiCaseless a, n => a.holds n || a.holds (swapAsciiCase n)

/-- Whether a character belongs to the class. -/
def contains (k : CharClass) (c : Char) : Bool :=
  k.holds c.toNat

/-- The class without members. -/
def empty : CharClass := range 1 0

/-- The class of all characters. -/
def any : CharClass := range 0 0x10FFFF

def single (c : Char) : CharClass := range c.toNat c.toNat

def ofChars (cs : List Char) : CharClass :=
  cs.foldr (fun c k => union (single c) k) empty

def ofRanges (ranges : List (Char × Char)) : CharClass :=
  ranges.foldr (fun r k => union (range r.1.toNat r.2.toNat) k) empty

def diff (a b : CharClass) : CharClass := inter a (complement b)

def symmDiff (a b : CharClass) : CharClass := union (diff a b) (diff b a)

/-- Blank space. -/
def blank : CharClass :=
  ofRanges [('\t', '\r'), (' ', ' '), ('\x85', '\x85'), ('\u00A0', '\u00A0'), ('\u1680', '\u1680'),
    ('\u2000', '\u200A'), ('\u2028', '\u2029'), ('\u202F', '\u202F'), ('\u205F', '\u205F'),
    ('\u3000', '\u3000')]

/-- The ASCII letters and digits and the underscore. -/
def asciiWord : CharClass :=
  ofRanges [('a', 'z'), ('A', 'Z'), ('0', '9'), ('_', '_')]

/-- The categories whose members beyond ASCII are word characters. -/
def wordCategories : List Category :=
  [.uppercaseLetter, .lowercaseLetter, .titlecaseLetter, .modifierLetter, .otherLetter,
   .letterNumber, .nonspacingMark, .spacingMark, .enclosingMark, .decimalNumber,
   .connectorPunctuation]

def ofCategories (ks : List Category) : CharClass :=
  ks.foldr (fun k rest => union (table k.points) rest) empty

def beyondAscii : CharClass := range 0x80 0x10FFFF

/-- Letters, marks, decimal digits, connectors and joiners. -/
def word : CharClass :=
  union asciiWord (inter beyondAscii
    (union (range 0x200C 0x200D) (union (table alphabetic.points) (ofCategories wordCategories))))

def asciiDigit : CharClass := range 0x30 0x39

/-- Decimal digits of any script. -/
def digit : CharClass :=
  union asciiDigit (inter beyondAscii (table (Category.points .decimalNumber)))

/-! ## Small facts -/

@[simp] theorem holds_union (a b : CharClass) (n : Nat) :
    (union a b).holds n = (a.holds n || b.holds n) := rfl

@[simp] theorem holds_complement (a : CharClass) (n : Nat) :
    (complement a).holds n = !a.holds n := rfl

theorem contains_single (c d : Char) : (single c).contains d = (c == d) := by
  rw [Bool.eq_iff_iff]
  simp only [single, contains, holds, Bool.and_eq_true, decide_eq_true_eq, beq_iff_eq]
  constructor
  · intro ⟨h₁, h₂⟩
    exact Char.toNat_inj.1 (Nat.le_antisymm h₁ h₂)
  · rintro rfl
    exact ⟨Nat.le_refl _, Nat.le_refl _⟩

/-- Blanks as a class and blanks as a test on characters are the same. -/
theorem contains_blank (c : Char) : blank.contains c = Text.isBlank c := by
  rw [Bool.eq_iff_iff]
  simp only [blank, ofRanges, List.foldr, contains, holds, empty, Text.isBlank, Bool.or_eq_true,
    Bool.and_eq_true, decide_eq_true_eq, beq_iff_eq, Char.reduceToNat]
  omega

end CharClass

end CodeSnapshot.Pattern
