import Highlight.Pattern.Syntax
import Highlight.Text.Blank
import Highlight.Unicode.Age
import Highlight.Unicode.Property
import Highlight.Unicode.Script

/-!
# Property queries

The set of characters that a property query asks for.  Names are compared loosely
(`Unicode.looseName`): without regard to case, blanks, hyphens, underscores and a leading `is`.  A
single name is looked up among the binary properties, then the general categories, then the scripts;
`cf`, `sc` and `lc` are categories although they also abbreviate properties.
-/

namespace Highlight.Unicode

open Pattern (PropertyQuery)

/-- A name in the form in which names are compared. -/
def looseName (name : String) : String :=
  let cs := name.toList
  let lower := cs.map Text.asciiLower
  let (shortened, cs) := match lower with
    | 'i' :: 's' :: _ => (true, cs.drop 2)
    | _ => (false, cs)
  let kept := (cs.filter fun c => c != ' ' && c != '_' && c != '-' && c.toNat < 128).map
    Text.asciiLower
  if shortened && kept == ['c'] then "isc" else String.ofList kept

/-- The set with the given name in a list. -/
def find? (table : List Named) (name : String) : Option CharSet :=
  (table.find? (·.names.contains name)).map Named.members

/-- The characters of a general category, or of one of the sets `any`, `assigned` and `ascii`. -/
def category? (name : String) : Option CharSet :=
  if name == "any" then some .all
  else if name == "assigned" then some Category.unassigned.compl
  else if name == "ascii" then some (.range 0 127)
  else find? categories name

/-- The characters with the property, category or script of the given name. -/
def named? (name : String) : Option CharSet :=
  let name := looseName name
  let property := if ["cf", "sc", "lc"].contains name then none else find? properties name
  (property.or (category? name)).or (find? scripts name)

/-- The characters for which a property has a value. -/
def valued? (property value : String) : Option CharSet :=
  let property := looseName property
  let value := looseName value
  if ["gc", "generalcategory"].contains property then category? value
  else if ["sc", "script"].contains property then find? scripts value
  else if ["scx", "scriptextensions"].contains property then find? scriptExtensions value
  else if property == "age" then find? ages value
  else none

/-- The characters that a query asks for; nothing when a name is not known. -/
def members? : PropertyQuery → Option CharSet
  | .named name => named? name
  | .valued property value => valued? property value

end Highlight.Unicode
