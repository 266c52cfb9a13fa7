import ChatRules.Text.CaseFold
import ChatRules.Text.Property.Age
import ChatRules.Text.Property.Binary
import ChatRules.Text.Property.Category
import ChatRules.Text.Property.Script
import ChatRules.Text.Property.ScriptExtension
import ChatRules.Text.Word

namespace ChatRules.Pattern
open Text Text.Property

def blankChars : CharSet :=
  .ofSorted [(0x9, 0xD), (0x20, 0x20), (0x85, 0x85), (0xA0, 0xA0), (0x1680, 0x1680),
    (0x2000, 0x200A), (0x2028, 0x2029), (0x202F, 0x202F), (0x205F, 0x205F), (0x3000, 0x3000)]

def asciiDigits : CharSet := .ofSorted [(0x30, 0x39)]

def asciiBlanks : CharSet := .ofSorted [(0x9, 0xD), (0x20, 0x20)]

def asciiWordChars : CharSet :=
  .ofSorted [(0x30, 0x39), (0x41, 0x5A), (0x5F, 0x5F), (0x61, 0x7A)]

def letterClass? (unicode : Bool) (c : Char) : Option CharSet :=
  if c = 'd' then some (if unicode then decimalDigits else asciiDigits)
  else if c = 's' then some (if unicode then blankChars else asciiBlanks)
  else if c = 'w' then some (if unicode then wordChars else asciiWordChars)
  else none

def asciiClasses : List (String × List (Nat × Nat)) :=
  [("alnum", [(0x30, 0x39), (0x41, 0x5A), (0x61, 0x7A)]),
   ("alpha", [(0x41, 0x5A), (0x61, 0x7A)]),
   ("ascii", [(0, 0x7F)]),
   ("blank", [(0x9, 0x9), (0x20, 0x20)]),
   ("cntrl", [(0, 0x1F), (0x7F, 0x7F)]),
   ("digit", [(0x30, 0x39)]),
   ("graph", [(0x21, 0x7E)]),
   ("lower", [(0x61, 0x7A)]),
   ("print", [(0x20, 0x7E)]),
   ("punct", [(0x21, 0x2F), (0x3A, 0x40), (0x5B, 0x60), (0x7B, 0x7E)]),
   ("space", [(0x9, 0xD), (0x20, 0x20)]),
   ("upper", [(0x41, 0x5A)]),
   ("word", [(0x30, 0x39), (0x41, 0x5A), (0x5F, 0x5F), (0x61, 0x7A)]),
   ("xdigit", [(0x30, 0x39), (0x41, 0x46), (0x61, 0x66)])]

def asciiClass? (name : String) : Option CharSet :=
  (asciiClasses.find? fun p => p.1 == name).map fun p => .ofSorted p.2

/-- Names compare without case, blanks, dashes, underscores and a leading `is`; characters outside
ASCII do not count. -/
def plainName (name : List Char) : String :=
  let lowered := name.map fun c => if 'A' ≤ c ∧ c ≤ 'Z' then Char.ofNat (c.toNat + 32) else c
  let body := match lowered with
    | 'i' :: 's' :: rest => rest
    | cs => cs
  let kept := body.filter fun c => c.toNat < 128 && c != ' ' && c != '_' && c != '-'
  if kept = ['c'] ∧ body.length ≠ lowered.length then "isc" else String.ofList kept

def categoryGroups : List (List String × List String) :=
  [(["lc", "casedletter"], ["lu", "ll", "lt"]),
   (["l", "letter"], ["lu", "ll", "lt", "lm", "lo"]),
   (["m", "mark", "combiningmark"], ["mn", "mc", "me"]),
   (["n", "number"], ["nd", "nl", "no"]),
   (["p", "punctuation", "punct"], ["pc", "pd", "ps", "pe", "pi", "pf", "po"]),
   (["s", "symbol"], ["sm", "sc", "sk", "so"]),
   (["z", "separator"], ["zs", "zl", "zp"]),
   (["c", "other"], ["cc", "cf", "co", "cn"])]

def unionAll (sets : List CharSet) : CharSet :=
  sets.foldl CharSet.union CharSet.empty

def category? (name : String) : Option CharSet :=
  if name = "any" then some CharSet.full
  else if name = "ascii" then some (.range 0 0x7F)
  else if name = "assigned" then (Named.find? categories "cn").map CharSet.compl
  else
    match categoryGroups.find? fun g => g.1.contains name with
    | some g => some (unionAll (g.2.filterMap (Named.find? categories)))
    | none => Named.find? categories name

def agedBy? (version : String) : Option CharSet :=
  if ages.any fun a => a.names.contains version then
    let later := (ages.dropWhile fun a => !a.names.contains version).drop 1
    some (unionAll ((ages.take (ages.length - later.length)).map Named.set))
  else none

def property? (name : String) : Option CharSet :=
  (Named.find? binaries name).or ((category? name).or (Named.find? scripts name))

def propertyValue? (property value : String) : Option CharSet :=
  if ["gc", "generalcategory", "category"].contains property then category? value
  else if ["sc", "script"].contains property then Named.find? scripts value
  else if ["scx", "scriptextensions"].contains property then Named.find? scriptExtensions value
  else if property = "age" then agedBy? value
  else none

end ChatRules.Pattern
