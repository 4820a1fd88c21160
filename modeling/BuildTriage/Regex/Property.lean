import BuildTriage.Regex.CharSet
import BuildTriage.Text.Letter
import BuildTriage.Text.Script
import BuildTriage.Text.WhiteSpace

/-!
# Sets of characters by property

A pattern can ask for the characters with some property: by the name of a general category, of a
script, or of a property that a character has or has not, or by the name of a property and a value
of it, with `=`, `:` or `!=` between them. In names neither case counts nor blanks, hyphens and low
lines, and `is` at the start does not either.

The tables here have all general categories and scripts, but of the other properties only the best
known ones.
-/

namespace BuildTriage.Regex

open Text (GeneralCategory)

/-- A name without what does not count in it. -/
def looseName (name : List Char) : String :=
  let counts (c : Char) : Bool := c.toNat < 128 && !(c == ' ' || c == '_' || c == '-')
  match name.map Char.toLower with
  | 'i' :: 's' :: rest =>
    let rest := rest.filter counts
    -- This one is the name of a property, and not that of a category without its case.
    if rest = ['c'] then "isc" else String.ofList rest
  | name => String.ofList (name.filter counts)

/-- What stands before and after the first inequality sign, if there is one. -/
def splitUnequal : List Char → Option (List Char × List Char)
  | [] => none
  | '!' :: '=' :: rest => some ([], rest)
  | c :: rest => (splitUnequal rest).map fun (name, value) => (c :: name, value)

/-- What stands before and after the first `sign`, if there is one. -/
def splitSign (sign : Char) (text : List Char) : Option (List Char × List Char) :=
  match text.dropWhile (· != sign) with
  | [] => none
  | _ :: value => some (text.takeWhile (· != sign), value)

/-- The names of the general categories and of the groups of them. -/
def categoryNames : List (List String × List GeneralCategory) :=
  [(["lu", "uppercaseletter"], [.uppercaseLetter]),
   (["ll", "lowercaseletter"], [.lowercaseLetter]),
   (["lt", "titlecaseletter"], [.titlecaseLetter]),
   (["lc", "casedletter"], [.uppercaseLetter, .lowercaseLetter, .titlecaseLetter]),
   (["lm", "modifierletter"], [.modifierLetter]),
   (["lo", "otherletter"], [.otherLetter]),
   (["l", "letter"], GeneralCategory.letters),
   (["mn", "nonspacingmark"], [.nonspacingMark]),
   (["mc", "spacingmark"], [.spacingMark]),
   (["me", "enclosingmark"], [.enclosingMark]),
   (["m", "mark", "combiningmark"], [.nonspacingMark, .spacingMark, .enclosingMark]),
   (["nd", "decimalnumber", "digit"], [.decimalNumber]),
   (["nl", "letternumber"], [.letterNumber]),
   (["no", "othernumber"], [.otherNumber]),
   (["n", "number"], GeneralCategory.numbers),
   (["pc", "connectorpunctuation"], [.connectorPunctuation]),
   (["pd", "dashpunctuation"], [.dashPunctuation]),
   (["ps", "openpunctuation"], [.openPunctuation]),
   (["pe", "closepunctuation"], [.closePunctuation]),
   (["pi", "initialpunctuation"], [.initialPunctuation]),
   (["pf", "finalpunctuation"], [.finalPunctuation]),
   (["po", "otherpunctuation"], [.otherPunctuation]),
   (["p", "punctuation", "punct"],
     [.connectorPunctuation, .dashPunctuation, .openPunctuation, .closePunctuation,
      .initialPunctuation, .finalPunctuation, .otherPunctuation]),
   (["sm", "mathsymbol"], [.mathSymbol]),
   (["sc", "currencysymbol"], [.currencySymbol]),
   (["sk", "modifiersymbol"], [.modifierSymbol]),
   (["so", "othersymbol"], [.otherSymbol]),
   (["s", "symbol"], [.mathSymbol, .currencySymbol, .modifierSymbol, .otherSymbol]),
   (["zs", "spaceseparator"], [.spaceSeparator]),
   (["zl", "lineseparator"], [.lineSeparator]),
   (["zp", "paragraphseparator"], [.paragraphSeparator]),
   (["z", "separator"], [.spaceSeparator, .lineSeparator, .paragraphSeparator]),
   (["cc", "control", "cntrl"], [.control]),
   (["cf", "format"], [.format]),
   (["co", "privateuse"], [.privateUse]),
   (["assigned"],
     GeneralCategory.letters ++ GeneralCategory.numbers ++
       [.nonspacingMark, .spacingMark, .enclosingMark, .connectorPunctuation, .dashPunctuation,
        .openPunctuation, .closePunctuation, .initialPunctuation, .finalPunctuation,
        .otherPunctuation, .mathSymbol, .currencySymbol, .modifierSymbol, .otherSymbol,
        .spaceSeparator, .lineSeparator, .paragraphSeparator, .control, .format, .privateUse])]

/-- The characters in the general categories that have the name. -/
def listedCategorySet? (name : String) : Option CharSet :=
  (categoryNames.find? fun entry => entry.1.contains name).map fun entry =>
    .ofRanges (entry.2.flatMap GeneralCategory.ranges)

/-- The characters of a general category, of a group of them, or of one of the names for all
characters, all of ASCII and all code points that are assigned or not. -/
def categorySet? : String → Option CharSet
  | "any" => some .all
  | "ascii" => some ⟨[(0, 127)]⟩
  | "cn" | "unassigned" => (listedCategorySet? "assigned").map (·.complement 0x10FFFF)
  | "c" | "other" => do
    -- What is in no other category is a control, a format character, private or not assigned.
    let assigned ← listedCategorySet? "assigned"
    let controls : CharSet := .ofRanges
      ([GeneralCategory.control, .format, .privateUse].flatMap GeneralCategory.ranges)
    return (assigned.complement 0x10FFFF).union controls
  | name => listedCategorySet? name

/-- The characters of a script. -/
def scriptSet? (name : String) : Option CharSet :=
  (Text.scripts.find? fun entry => entry.1.contains name).map fun entry => .ofRanges entry.2

/-- The characters that have one of the properties without values. -/
def plainPropertySet? : String → Option CharSet
  | "alpha" | "alphabetic" => some (.ofRanges Text.alphabeticRanges)
  | "lower" | "lowercase" => some (.ofRanges Text.lowercaseRanges)
  | "upper" | "uppercase" => some (.ofRanges Text.uppercaseRanges)
  | "space" | "wspace" | "whitespace" => some (.ofRanges Text.whiteSpaceRanges)
  | _ => none

/-- The characters with the property that the text between braces asks for. Of the signs before a
value the inequality sign means no more than the others. -/
def propertySet? (text : List Char) : Option CharSet :=
  match (splitUnequal text).or ((splitSign ':' text).or (splitSign '=' text)) with
  | some (name, value) =>
    match looseName name with
    | "gc" | "generalcategory" => categorySet? (looseName value)
    | "sc" | "script" => scriptSet? (looseName value)
    | _ => none
  | none =>
    let name := looseName text
    (plainPropertySet? name).or ((categorySet? name).or (scriptSet? name))

example : propertySet? "sc=Ogam".toList = some ⟨[(0x1680, 0x169C)]⟩ := by decide +kernel

end BuildTriage.Regex
