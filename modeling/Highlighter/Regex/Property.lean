import Highlighter.Text
import Highlighter.Pattern.CharSet
import Highlighter.Unicode.Boundary
import Highlighter.Unicode.Property
import Highlighter.Unicode.Script

/-!
# Character properties by name

Names are compared in lower case, without blanks, `_`, `-`, characters beyond ASCII
and an initial `is`. A bare name is first looked up among the binary properties, then
among the general categories, then among the scripts. The names `cf`, `sc` and `lc`
are always categories.
-/

namespace Highlighter.Property

open Unicode

/-- A name in the form in which names are compared. -/
def normalize (name : Text) : Text :=
  let keep (t : Text) : Text :=
    (t.filter fun c => c.toNat < 128 && !(c == ' ' || c == '_' || c == '-')).map Char.toLower
  match name with
  | a :: b :: rest =>
    if (a == 'i' || a == 'I') && (b == 's' || b == 'S') then
      if keep rest == ['c'] then "isc".toList else keep rest
    else keep name
  | _ => keep name

/-- The union of some tables. -/
def unionOf : List Ranges → CharSet
  | [] => .none
  | [r] => .table r
  | r :: rest => .union (.table r) (unionOf rest)

open Category in
/-- The tables of the categories with one letter. -/
def groups : List (List String × List Ranges) := [
  (["lc", "casedletter"], [uppercaseLetter, lowercaseLetter, titlecaseLetter]),
  (["l", "letter"],
    [uppercaseLetter, lowercaseLetter, titlecaseLetter, modifierLetter, otherLetter]),
  (["m", "mark", "combiningmark"], [nonspacingMark, spacingMark, enclosingMark]),
  (["n", "number"], [decimalNumber, letterNumber, otherNumber]),
  (["p", "punctuation", "punct"],
    [connectorPunctuation, dashPunctuation, openPunctuation, closePunctuation,
      initialPunctuation, finalPunctuation, otherPunctuation]),
  (["s", "symbol"], [mathSymbol, currencySymbol, modifierSymbol, otherSymbol]),
  (["z", "separator"], [spaceSeparator, lineSeparator, paragraphSeparator])]

open Category in
/-- The tables of the categories with two letters. -/
def categories : List (List String × Ranges) := [
  (["lu", "uppercaseletter"], uppercaseLetter), (["ll", "lowercaseletter"], lowercaseLetter),
  (["lt", "titlecaseletter"], titlecaseLetter), (["lm", "modifierletter"], modifierLetter),
  (["lo", "otherletter"], otherLetter), (["mn", "nonspacingmark"], nonspacingMark),
  (["mc", "spacingmark"], spacingMark), (["me", "enclosingmark"], enclosingMark),
  (["nd", "decimalnumber", "digit"], decimalNumber), (["nl", "letternumber"], letterNumber),
  (["no", "othernumber"], otherNumber), (["pc", "connectorpunctuation"], connectorPunctuation),
  (["pd", "dashpunctuation"], dashPunctuation), (["ps", "openpunctuation"], openPunctuation),
  (["pe", "closepunctuation"], closePunctuation),
  (["pi", "initialpunctuation"], initialPunctuation),
  (["pf", "finalpunctuation"], finalPunctuation), (["po", "otherpunctuation"], otherPunctuation),
  (["sm", "mathsymbol"], mathSymbol), (["sc", "currencysymbol"], currencySymbol),
  (["sk", "modifiersymbol"], modifierSymbol), (["so", "othersymbol"], otherSymbol),
  (["zs", "spaceseparator"], spaceSeparator), (["zl", "lineseparator"], lineSeparator),
  (["zp", "paragraphseparator"], paragraphSeparator), (["cc", "control", "cntrl"], control),
  (["cf", "format"], format), (["co", "privateuse"], privateUse)]

/-- The characters of every category but the unassigned ones. -/
def assigned : CharSet := unionOf (categories.map (·.2))

/-- The categories that are not the union of a few tables. -/
def broadCategories : List (List String × CharSet) := [
  (["any"], .all), (["ascii"], .ascii), (["assigned"], assigned),
  (["cn", "unassigned"], .complement assigned),
  (["c", "other"], .union (.complement assigned)
    (unionOf [Category.control, Category.format, Category.privateUse]))]

/-- The first entry that answers to a name. -/
def lookUp {α : Type} (table : List (List String × α)) (name : Text) : Option α :=
  (table.find? fun entry => entry.1.any (·.toList == name)).map (·.2)

/-- The characters of a general category. -/
def category? (name : Text) : Option CharSet :=
  match lookUp broadCategories name with
  | some s => some s
  | none =>
    match lookUp groups name with
    | some tables => some (unionOf tables)
    | none => (lookUp categories name).map .table

/-- The characters of a script. -/
def script? (name : Text) : Option CharSet :=
  (Script.all.find? fun s => s.names.any (·.toList == name)).map fun s => .table s.ranges

/-- The letters and letter numbers. -/
def letters : CharSet :=
  unionOf [Category.uppercaseLetter, Category.lowercaseLetter, Category.titlecaseLetter,
    Category.modifierLetter, Category.otherLetter, Category.letterNumber]

/-- The alphabetic characters. -/
def alphabetic : CharSet := .union letters (.table Unicode.Property.otherAlphabetic)

/-- The lower case characters. -/
def lowercase : CharSet := unionOf [Category.lowercaseLetter, Unicode.Property.otherLowercase]

/-- The upper case characters. -/
def uppercase : CharSet := unionOf [Category.uppercaseLetter, Unicode.Property.otherUppercase]

/-- The characters that have another lower case form. -/
def loweredOtherwise : CharSet :=
  (CharSet.union uppercase (.table Category.titlecaseLetter)).diff
    (.table Unicode.Property.unchangedUppercase)

/-- The characters that have another upper case or title case form, and no lower case form. -/
def raisedOtherwise : CharSet :=
  (CharSet.table Unicode.Property.changesWhenCasemapped).diff loweredOtherwise

/-- The characters that start identifiers. -/
def identifierStart : CharSet :=
  .union (letters.diff (.only '\u2e2f')) (.table Unicode.Property.otherStart)

/-- The characters that continue identifiers. -/
def identifierContinue : CharSet :=
  .union identifierStart (unionOf [Category.nonspacingMark, Category.spacingMark,
    Category.decimalNumber, Category.connectorPunctuation, Unicode.Property.otherContinue])

open Unicode.Property in
/-- The binary properties that are put together from several tables. -/
def composed : List (List String × CharSet) := [
  (["alphabetic", "alpha"], alphabetic),
  (["lowercase", "lower"], lowercase),
  (["uppercase", "upper"], uppercase),
  (["cased"], .union (.union lowercase uppercase) (.table Category.titlecaseLetter)),
  (["caseignorable", "ci"], unionOf [Category.nonspacingMark, Category.enclosingMark,
    Category.format, Category.modifierLetter, Category.modifierSymbol,
    Boundary.midLetter, Boundary.midNumberOrLetter, [(0x27, 0x27)]]),
  (["changeswhenlowercased", "cwl"], loweredOtherwise),
  (["changeswhenuppercased", "cwu"], .union raisedOtherwise (.table titlecaseWithUppercase)),
  (["changeswhentitlecased", "cwt"],
    .union (raisedOtherwise.diff (.table uppercaseOnlyPairs)) (.table pairsWithTitlecase)),
  (["changeswhencasefolded", "cwcf"],
    .union (loweredOtherwise.diff (.table unchangedCherokee)) (.table changedLowercase)),
  (["idcompatmathcontinue"], unionOf [compatMathStart, compatMathContinue]),
  (["idstart", "ids"], identifierStart),
  (["idcontinue", "idc"], identifierContinue),
  (["xidstart", "xids"], identifierStart.diff (.table unstableStart)),
  (["xidcontinue", "xidc"], identifierContinue.diff (.table unstableContinue)),
  (["graphemeextend", "grext"], .table graphemeExtend),
  (["graphemebase", "grbase"], assigned.diff (unionOf [Category.control, Category.format,
    Category.privateUse, Category.lineSeparator, Category.paragraphSeparator, graphemeExtend]))]

/-- The characters of a binary property. -/
def binary? (name : Text) : Option CharSet :=
  match lookUp composed name with
  | some s => some s
  | none => (lookUp Unicode.Property.listed name).map .table

/-- The characters of the property with a bare name. -/
def find? (name : Text) : Option CharSet :=
  let name := normalize name
  let binary :=
    if ["cf", "sc", "lc"].any (·.toList == name) then none else binary? name
  match binary with
  | some s => some s
  | none =>
    match category? name with
    | some s => some s
    | none => script? name

end Highlighter.Property
