import CodeSnapshot.Pattern.CharClass
import CodeSnapshot.Unicode.Age
import CodeSnapshot.Unicode.Break
import CodeSnapshot.Unicode.Script

/-!
# Classes by name

The classes that a pattern can name: properties, general categories, scripts, ages and breaks of the
character database, and the classes of ASCII that stand between `[:` and `:]`. Names of the database
are compared loosely: case, blanks, underscores, hyphens and a leading `is` do not count.
-/

namespace CodeSnapshot.Pattern

open Unicode

/-- The form in which names of the database are compared. -/
def looseName (name : List Char) : List Char :=
  let (isForm, body) :=
    match name with
    | i :: s :: rest =>
      if (i = 'i' || i = 'I') && (s = 's' || s = 'S') then (true, rest) else (false, name)
    | _ => (false, name)
  let kept := body.filter fun c => c.toNat < 0x80 && c != ' ' && c != '_' && c != '-'
  let lower := kept.map Char.toLower
  if isForm && lower = ['c'] then "isc".toList else lower

/-- The groups of general categories, with the names they go by. -/
def categoryGroups : List (List String × List Category) :=
  [(["l", "letter"], [.uppercaseLetter, .lowercaseLetter, .titlecaseLetter, .modifierLetter,
      .otherLetter]),
   (["lc", "casedletter"], [.uppercaseLetter, .lowercaseLetter, .titlecaseLetter]),
   (["m", "mark", "combiningmark"], [.nonspacingMark, .spacingMark, .enclosingMark]),
   (["n", "number"], [.decimalNumber, .letterNumber, .otherNumber]),
   (["p", "punctuation", "punct"], [.connectorPunctuation, .dashPunctuation, .openPunctuation,
      .closePunctuation, .initialPunctuation, .finalPunctuation, .otherPunctuation]),
   (["s", "symbol"], [.mathSymbol, .currencySymbol, .modifierSymbol, .otherSymbol]),
   (["z", "separator"], [.spaceSeparator, .lineSeparator, .paragraphSeparator]),
   (["digit"], [.decimalNumber]),
   (["cntrl"], [.control])]

/-- The characters that are assigned. -/
def assigned : CharClass :=
  CharClass.ofCategories Category.all

/-- The class of a general category, a group of them, or one of three names for larger classes. -/
def categoryClass? (name : List Char) : Option CharClass :=
  if name = "any".toList then some CharClass.any
  else if name = "ascii".toList then some (.range 0 0x7F)
  else if name = "assigned".toList then some assigned
  else if name = "cn".toList || name = "unassigned".toList then some (.complement assigned)
  else if name = "c".toList || name = "other".toList then
    some (.union (.complement assigned) (CharClass.ofCategories [.control, .format, .privateUse]))
  else
    match categoryGroups.find? (·.1.any (·.toList == name)) with
    | some (_, ks) => some (CharClass.ofCategories ks)
    | none =>
      (Category.all.find? fun k =>
        looseName k.abbreviation.toList == name || looseName k.longName.toList == name).map
        fun k => .table k.points

def scriptNamed? (name : List Char) : Option Script :=
  scripts.find? (·.names.any fun n => looseName n.toList == name)

/-- The characters that belong to a script. -/
def scriptClass? (name : List Char) : Option CharClass :=
  (scriptNamed? name).map fun s => .table s.points

/-- The characters that are used in a script; what is common to some scripts only is not common. -/
def usedInClass? (name : List Char) : Option CharClass :=
  (scriptNamed? name).map fun s =>
    if s.isCommon then
      .inter (.table s.points) (.complement (.table (sharedPoints.flatMap (·.2))))
    else .union (.table s.points) (.table s.shared)

/-- The class of one of some binary properties. -/
def propertyClass? (properties : List Property) (name : List Char) : Option CharClass :=
  (properties.find? (·.names.any fun n => looseName n.toList == name)).map fun p =>
    .inter (.union (CharClass.ofCategories p.categories) (.table p.points))
      (.complement (.table p.exceptions))

/-- The characters that were assigned up to a version of the database. -/
def ageClass? (name : List Char) : Option CharClass :=
  (ages.findIdx? (·.names.any fun n => looseName n.toList == name)).map fun i =>
    .table ((ages.take (i + 1)).flatMap (·.points))

/-- The names that mean a general category although a property has the same short name. -/
def categoryFirst : List String := ["cf", "sc", "lc"]

/-- The class that a single name means: a property, a general category or a script. -/
def classNamed? (name : List Char) : Option CharClass :=
  let loose := looseName name
  let property := if categoryFirst.any (·.toList == loose) then none else propertyClass? properties loose
  property <|> categoryClass? loose <|> scriptClass? loose

/-- What takes a value, by the names it goes by: the class of the characters that have the value. -/
def valueClasses : List (List String × (List Char → Option CharClass)) :=
  [(["gc", "generalcategory"], categoryClass?),
   (["sc", "script"], scriptClass?),
   (["scx", "scriptextensions"], usedInClass?),
   (["age"], ageClass?),
   (["gcb", "graphemeclusterbreak"], propertyClass? clusterBreaks),
   (["wb", "wordbreak"], propertyClass? wordBreaks),
   (["sb", "sentencebreak"], propertyClass? sentenceBreaks)]

/-- The class that a name and a value mean, such as the script with a given name. -/
def classWithValue? (name value : List Char) : Option CharClass :=
  (valueClasses.find? (·.1.any (·.toList == looseName name))).bind fun (_, classOf?) =>
    classOf? (looseName value)

/-- The classes of ASCII that have a name. -/
def asciiClass? (name : List Char) : Option CharClass :=
  (table.find? (·.1.toList == name)).map fun entry => CharClass.ofRanges entry.2
where
  table : List (String × List (Char × Char)) :=
    [("alnum", [('0', '9'), ('A', 'Z'), ('a', 'z')]),
     ("alpha", [('A', 'Z'), ('a', 'z')]),
     ("ascii", [('\x00', '\x7F')]),
     ("blank", [('\t', '\t'), (' ', ' ')]),
     ("cntrl", [('\x00', '\x1F'), ('\x7F', '\x7F')]),
     ("digit", [('0', '9')]),
     ("graph", [('!', '~')]),
     ("lower", [('a', 'z')]),
     ("print", [(' ', '~')]),
     ("punct", [('!', '/'), (':', '@'), ('[', '\x60'), ('\x7b', '~')]),
     ("space", [('\t', '\r'), (' ', ' ')]),
     ("upper", [('A', 'Z')]),
     ("word", [('0', '9'), ('A', 'Z'), ('_', '_'), ('a', 'z')]),
     ("xdigit", [('0', '9'), ('A', 'F'), ('a', 'f')])]

end CodeSnapshot.Pattern
