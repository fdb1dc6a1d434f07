import ModuleBundler.Regex.CharacterSet
import ModuleBundler.Unicode.Category
import ModuleBundler.Unicode.Identifier
import ModuleBundler.Unicode.Printable
import ModuleBundler.Unicode.WritingSystem

/-!
# Properties of characters

A property is named by a word, or by a word and a value. Letter case, blanks, hyphens, underscores
and a leading `is` do not tell names apart. The groups of categories are unions or what remains of
a group, so that the categories of a group partition it.
-/

namespace ModuleBundler.Regex

namespace CharacterSet

def letter : CharacterSet := .table Unicode.letter

def casedLetter : CharacterSet :=
  ofList [.table Unicode.uppercaseLetter, .table Unicode.lowercaseLetter,
    .table Unicode.titlecaseLetter]

def otherLetter : CharacterSet :=
  difference letter (.union casedLetter (.table Unicode.modifierLetter))

def mark : CharacterSet := .table Unicode.mark

def spacingMark : CharacterSet :=
  difference mark (.union (.table Unicode.nonspacingMark) (.table Unicode.enclosingMark))

def number : CharacterSet := .table Unicode.numeric

def otherNumber : CharacterSet :=
  difference number (.union digit (.table Unicode.letterNumber))

/-- The connectors without the joiners, which are format characters. -/
def connectorPunctuation : CharacterSet :=
  difference connector (.range (Char.ofNat 0x200C) (Char.ofNat 0x200D))

def punctuation : CharacterSet := .table Unicode.punctuation

def otherPunctuation : CharacterSet :=
  difference punctuation (ofList [connectorPunctuation, .table Unicode.dashPunctuation,
    .table Unicode.openPunctuation, .table Unicode.closePunctuation,
    .table Unicode.initialPunctuation, .table Unicode.finalPunctuation])

def symbol : CharacterSet := .table Unicode.symbol

def otherSymbol : CharacterSet :=
  difference symbol (ofList [.table Unicode.mathSymbol, .table Unicode.currencySymbol,
    .table Unicode.modifierSymbol])

def separator : CharacterSet := .table Unicode.separator

def control : CharacterSet :=
  .union (.range '\x00' '\x1f') (.range '\x7f' (Char.ofNat 0x9F))

/-- What is neither a letter, a mark, a number, punctuation, a symbol nor a separator. -/
def other : CharacterSet := difference (.table Unicode.unprintable) separator

def unassigned : CharacterSet :=
  difference other (ofList [control, .table Unicode.format, .table Unicode.privateUse])

end CharacterSet

/-- The general categories and their groups, each with its names. -/
def categories : List (List String × CharacterSet) :=
  [(["any"], CharacterSet.all),
   (["assigned"], .complement CharacterSet.unassigned),
   (["ascii"], .range '\x00' '\x7f'),
   (["l", "letter"], CharacterSet.letter),
   (["lc", "casedletter"], CharacterSet.casedLetter),
   (["lu", "uppercaseletter"], .table Unicode.uppercaseLetter),
   (["ll", "lowercaseletter"], .table Unicode.lowercaseLetter),
   (["lt", "titlecaseletter"], .table Unicode.titlecaseLetter),
   (["lm", "modifierletter"], .table Unicode.modifierLetter),
   (["lo", "otherletter"], CharacterSet.otherLetter),
   (["m", "mark", "combiningmark"], CharacterSet.mark),
   (["mn", "nonspacingmark"], .table Unicode.nonspacingMark),
   (["mc", "spacingmark"], CharacterSet.spacingMark),
   (["me", "enclosingmark"], .table Unicode.enclosingMark),
   (["n", "number"], CharacterSet.number),
   (["nd", "decimalnumber", "digit"], CharacterSet.digit),
   (["nl", "letternumber"], .table Unicode.letterNumber),
   (["no", "othernumber"], CharacterSet.otherNumber),
   (["p", "punctuation", "punct"], CharacterSet.punctuation),
   (["pc", "connectorpunctuation"], CharacterSet.connectorPunctuation),
   (["pd", "dashpunctuation"], .table Unicode.dashPunctuation),
   (["ps", "openpunctuation"], .table Unicode.openPunctuation),
   (["pe", "closepunctuation"], .table Unicode.closePunctuation),
   (["pi", "initialpunctuation"], .table Unicode.initialPunctuation),
   (["pf", "finalpunctuation"], .table Unicode.finalPunctuation),
   (["po", "otherpunctuation"], CharacterSet.otherPunctuation),
   (["s", "symbol"], CharacterSet.symbol),
   (["sm", "mathsymbol"], .table Unicode.mathSymbol),
   (["sc", "currencysymbol"], .table Unicode.currencySymbol),
   (["sk", "modifiersymbol"], .table Unicode.modifierSymbol),
   (["so", "othersymbol"], CharacterSet.otherSymbol),
   (["z", "separator"], CharacterSet.separator),
   (["zs", "spaceseparator"], .table Unicode.spaceSeparator),
   (["zl", "lineseparator"], .single (Char.ofNat 0x2028)),
   (["zp", "paragraphseparator"], .single (Char.ofNat 0x2029)),
   (["c", "other"], CharacterSet.other),
   (["cc", "control", "cntrl"], CharacterSet.control),
   (["cf", "format"], .table Unicode.format),
   (["co", "privateuse"], .table Unicode.privateUse),
   (["cn", "unassigned"], CharacterSet.unassigned)]

/-- The properties that hold or do not hold of a character. -/
def traits : List (List String × CharacterSet) :=
  [(["alphabetic", "alpha"], .table Unicode.alphabetic),
   (["whitespace", "wspace", "space"], CharacterSet.space),
   (["lowercase", "lower"],
    .union (.table Unicode.lowercaseLetter) (.table Unicode.otherLowercase)),
   (["uppercase", "upper"],
    .union (.table Unicode.uppercaseLetter) (.table Unicode.otherUppercase)),
   (["cased"], CharacterSet.ofList [CharacterSet.casedLetter, .table Unicode.otherLowercase,
    .table Unicode.otherUppercase]),
   (["emoji"], .table Unicode.emoji),
   (["idstart", "ids"], .table Unicode.idStart),
   (["idcontinue", "idc"], .table Unicode.idContinue),
   (["graphemeextend", "grext"], .table Unicode.graphemeExtend)]

def writingSystems : List (List String × CharacterSet) :=
  [(["latin", "latn"], .table Unicode.latin),
   (["greek", "grek"], .table Unicode.greek),
   (["cyrillic", "cyrl"], .table Unicode.cyrillic),
   (["armenian", "armn"], .table Unicode.armenian),
   (["hebrew", "hebr"], .table Unicode.hebrew),
   (["arabic", "arab"], .table Unicode.arabic),
   (["devanagari", "deva"], .table Unicode.devanagari),
   (["thai"], .table Unicode.thai),
   (["hangul", "hang"], .table Unicode.hangul),
   (["hiragana", "hira"], .table Unicode.hiragana),
   (["katakana", "kana"], .table Unicode.katakana),
   (["han", "hani"], .table Unicode.han)]

/-- A name without what does not tell names apart. The property `isc` keeps its first letters,
being another one than the category `c`. -/
def bareName (name : List Char) : String :=
  match name.map Char.toLower with
  | 'i' :: 's' :: rest => if bare rest = ['c'] then "isc" else String.ofList (bare rest)
  | name => String.ofList (bare name)
where
  bare (name : List Char) : List Char :=
    name.filter fun c => c.toNat < 0x80 && !" _-".toList.contains c

def named? (sets : List (List String × CharacterSet)) (name : String) : Option CharacterSet :=
  (sets.find? (·.1.contains name)).map (·.2)

/-- The set of a property that is one word. -/
def traitNamed? (name : List Char) : Option CharacterSet :=
  named? (traits ++ categories ++ writingSystems) (bareName name)

/-- The set of a property that takes a value. -/
def propertyNamed? (name value : List Char) : Option CharacterSet :=
  let value := bareName value
  match bareName name with
  | "gc" | "generalcategory" => named? categories value
  | "sc" | "script" | "scx" | "scriptextensions" => named? writingSystems value
  | _ => none

/-- What a property escape names: a set, and whether the escape is for what the set lacks. -/
structure Property where
  negated : Bool
  set : CharacterSet

/-- The text of a property escape. A value follows `!=`, `:` or `=`. -/
def property? (text : List Char) : Option Property :=
  match cut? ['!', '='] [] text, cut? [':'] [] text, cut? ['='] [] text with
  | some (name, value), _, _ => (propertyNamed? name value).map fun set => ⟨true, set⟩
  | none, some (name, value), _ => (propertyNamed? name value).map fun set => ⟨false, set⟩
  | none, none, some (name, value) => (propertyNamed? name value).map fun set => ⟨false, set⟩
  | none, none, none => (traitNamed? text).map fun set => ⟨false, set⟩
where
  cut? (sign before : List Char) : List Char → Option (List Char × List Char)
    | [] => none
    | c :: rest =>
      if sign.isPrefixOf (c :: rest) then
        some (before.reverse, (c :: rest).drop sign.length)
      else cut? sign (c :: before) rest

end ModuleBundler.Regex
