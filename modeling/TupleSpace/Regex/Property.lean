import TupleSpace.Regex.CharSet
import TupleSpace.Regex.Unicode.Age
import TupleSpace.Regex.Unicode.Binary
import TupleSpace.Regex.Unicode.CaseOrbit
import TupleSpace.Regex.Unicode.GeneralCategory
import TupleSpace.Regex.Unicode.GraphemeBreak
import TupleSpace.Regex.Unicode.Later
import TupleSpace.Regex.Unicode.Script
import TupleSpace.Regex.Unicode.ScriptExtensions
import TupleSpace.Regex.Unicode.SentenceBreak
import TupleSpace.Regex.Unicode.WordBreak

/-!
# Named character classes

The classes that an expression can name: Unicode properties by loosely matched names, the
shorthand classes in their Unicode and ASCII readings, and the bracketed ASCII classes. The
closure of a set under simple case folding is here too. Classes are those of Unicode 16; only
the letters and numbers of names go by Unicode 17.
-/

namespace TupleSpace.Regex

/-- Loose matching of property names ignores case, blanks, `_`, `-` and a leading `is`. Only
`isc` keeps its first two letters, which name a property of their own. -/
def looseName (name : List Char) : String :=
  let afterIs := match name with
    | i :: s :: rest =>
        if (i = 'i' ∨ i = 'I') ∧ (s = 's' ∨ s = 'S') then some rest else none
    | _ => none
  let kept := ((afterIs.getD name).filter
    (fun c => c.toNat < 128 && c != ' ' && c != '_' && c != '-')).map Char.toLower
  if afterIs.isSome && kept == ['c'] then "isc" else String.ofList kept

def filed? (table : List (List String × List String)) (name : String) : Option CharSet :=
  (table.find? (fun entry => entry.1.contains name)).map (fun entry => CharSet.ofTable entry.2)

def minorCategory (name : String) : CharSet :=
  (filed? Unicode.generalCategories name).getD .empty

def majorCategories : List (List String × List String) := [
  (["c", "other"], ["cc", "cf", "cn", "co"]),
  (["l", "letter"], ["ll", "lm", "lo", "lt", "lu"]),
  (["lc", "casedletter"], ["ll", "lt", "lu"]),
  (["m", "mark", "combiningmark"], ["mc", "me", "mn"]),
  (["n", "number"], ["nd", "nl", "no"]),
  (["p", "punctuation", "punct"], ["pc", "pd", "pe", "pf", "pi", "po", "ps"]),
  (["s", "symbol"], ["sc", "sk", "sm", "so"]),
  (["z", "separator"], ["zl", "zp", "zs"])]

def category? (name : String) : Option CharSet :=
  if name == "any" then some .all
  else if name == "ascii" then some (.range 0 0x7F)
  else if name == "assigned" then some (minorCategory "cn").complement
  else match majorCategories.find? (fun entry => entry.1.contains name) with
    | some entry => some (.unions (entry.2.map minorCategory))
    | none => filed? Unicode.generalCategories name

def script? (name : String) : Option CharSet := filed? Unicode.scripts name

/-- A script without extensions of its own keeps its plain set. -/
def scriptExtension? (name : String) : Option CharSet :=
  filed? Unicode.scriptExtensions name <|> script? name

def binary? (name : String) : Option CharSet := filed? Unicode.binaryProperties name

/-- A version stands for everything assigned in it or before. -/
def age? (name : String) : Option CharSet :=
  let later := Unicode.ages.dropWhile (fun entry => !entry.1.contains name)
  if later.isEmpty then none
  else
    let upTo := Unicode.ages.take (Unicode.ages.length - later.length + 1)
    some (.unions (upTo.map (fun entry => CharSet.ofTable entry.2)))

/-- The class of a name that stands alone. The three names in front mean categories although
they also abbreviate properties. -/
def property? (written : List Char) : Option CharSet :=
  let name := looseName written
  if ["cf", "sc", "lc"].contains name then category? name
  else binary? name <|> category? name <|> script? name

def propertyValue? (writtenName writtenValue : List Char) : Option CharSet :=
  let name := looseName writtenName
  let value := looseName writtenValue
  if ["gc", "generalcategory"].contains name then category? value
  else if ["sc", "script"].contains name then script? value
  else if ["scx", "scriptextensions"].contains name then scriptExtension? value
  else if name == "age" then age? value
  else if ["gcb", "graphemeclusterbreak"].contains name then
    filed? Unicode.graphemeBreaks value
  else if ["wb", "wordbreak"].contains name then filed? Unicode.wordBreaks value
  else if ["sb", "sentencebreak"].contains name then filed? Unicode.sentenceBreaks value
  else none

namespace CharSet

def decimalDigits : CharSet := minorCategory "nd"

def whiteSpace : CharSet := (binary? "whitespace").getD .empty

/-- Letters, marks, decimal digits, connectors and the two joiners make up words. -/
def wordChars : CharSet :=
  unions ((binary? "alphabetic").getD .empty :: (binary? "joincontrol").getD .empty ::
    ["mc", "me", "mn", "nd", "pc"].map minorCategory)

def letters : CharSet :=
  ((binary? "alphabetic").getD .empty).union (ofTable Unicode.laterAlphabetic)

def numbers : CharSet := ((category? "n").getD .empty).union (ofTable Unicode.laterNumbers)

def asciiWordChars : CharSet := ofTable ["30-39 41-5A 5F 61-7A"]

def asciiDigits : CharSet := range 0x30 0x39

def asciiSpace : CharSet := ofTable ["9-D 20"]

def asciiClasses : List (String × String) := [
  ("alnum", "30-39 41-5A 61-7A"),
  ("alpha", "41-5A 61-7A"),
  ("ascii", "0-7F"),
  ("blank", "9 20"),
  ("cntrl", "0-1F 7F"),
  ("digit", "30-39"),
  ("graph", "21-7E"),
  ("lower", "61-7A"),
  ("print", "20-7E"),
  ("punct", "21-2F 3A-40 5B-60 7B-7E"),
  ("space", "9-D 20"),
  ("upper", "41-5A"),
  ("word", "30-39 41-5A 5F 61-7A"),
  ("xdigit", "30-39 41-46 61-66")]

def ofAsciiName? (name : String) : Option CharSet :=
  (asciiClasses.lookup name).map (fun row => ofTable [row])

/-- The orbits of a row: orbits are parted by blanks and code points by slashes. -/
def rowOrbits (row : String) : List (List Nat) :=
  go [] [] 0 row.toList
where
  go (orbits : List (List Nat)) (orbit : List Nat) (number : Nat) : List Char → List (List Nat)
    | [] => ((number :: orbit) :: orbits).reverse
    | '/' :: rest => go orbits (number :: orbit) 0 rest
    | ' ' :: rest => go ((number :: orbit) :: orbits) [] 0 rest
    | c :: rest => go orbits orbit (number * 16 + (hexValue? c).getD 0) rest

def caseOrbits : List (List Nat) := Unicode.caseOrbits.flatMap rowOrbits

def containsCode (set : CharSet) (code : Nat) : Bool := set.ranges.any (·.contains code)

/-- Adds every character that simple case folding identifies with a member. -/
def caseClosure (set : CharSet) : CharSet :=
  let met := caseOrbits.filter (fun orbit => orbit.any set.containsCode)
  if met.isEmpty then set
  else set.union (ofRanges (met.flatten.map (fun code => ⟨code, code⟩)))

def asciiCaseClosure (set : CharSet) : CharSet :=
  let lower := (set.inter (range 0x41 0x5A)).ranges.map (fun r => ⟨r.low + 32, r.high + 32⟩)
  let upper := (set.inter (range 0x61 0x7A)).ranges.map (fun r => ⟨r.low - 32, r.high - 32⟩)
  set.union (ofRanges (lower ++ upper))

end CharSet

end TupleSpace.Regex
