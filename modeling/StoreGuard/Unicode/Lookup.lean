import StoreGuard.Unicode.GeneralCategory
import StoreGuard.Unicode.Script
import StoreGuard.Unicode.ScriptExtensions
import StoreGuard.Unicode.Binary
import StoreGuard.Unicode.Age
import StoreGuard.Unicode.Segmentation

namespace StoreGuard.Unicode

def unionOf (sets : List CodeSet) : CodeSet := CodeSet.ofRanges sets.flatten

def generalCategory? (name : String) : Option CodeSet :=
  if name = "any" then some CodeSet.full
  else if name = "ascii" then some (CodeSet.range 0 127)
  else if name = "assigned" then (Property.find? generalCategories "cn").map CodeSet.negate
  else match generalCategoryGroups.find? fun g => g.1.contains name with
    | some g => some (unionOf (g.2.filterMap (Property.find? generalCategories)))
    | none => Property.find? generalCategories name

def script? (name : String) : Option CodeSet := Property.find? scripts name

def scriptExtension? (name : String) : Option CodeSet :=
  (Property.find? scriptExtensions name).or (script? name)

/-- All code points assigned in the named version or before it. -/
def age? (name : String) : Option CodeSet :=
  let upTo := ages.takeWhile fun p => !p.names.contains name
  if upTo.length < ages.length then
    some (unionOf ((ages.take (upTo.length + 1)).map Property.codes))
  else none

/-- A property named alone: one that holds or not, a general category, or a script. -/
def named? (name : String) : Option CodeSet :=
  let loose := looseName name
  ((Property.find? binaryProperties loose).or (generalCategory? loose)).or (script? loose)

def valued? (name value : String) : Option CodeSet :=
  let loose := looseName value
  match looseName name with
  | "gc" | "generalcategory" => generalCategory? loose
  | "sc" | "script" => script? loose
  | "scx" | "scriptextensions" => scriptExtension? loose
  | "age" => age? loose
  | "gcb" | "graphemeclusterbreak" => Property.find? graphemeBreaks loose
  | "wb" | "wordbreak" => Property.find? wordBreaks loose
  | "sb" | "sentencebreak" => Property.find? sentenceBreaks loose
  | _ => none

def digits : CodeSet := (generalCategory? "nd").getD []

/-- Letters, marks, decimal digits, connecting punctuation and the two joiners. -/
def wordCodes : CodeSet :=
  unionOf (["alphabetic", "m", "nd", "pc", "joincontrol"].filterMap named?)

end StoreGuard.Unicode
