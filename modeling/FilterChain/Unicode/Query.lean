import FilterChain.Unicode.Age
import FilterChain.Unicode.Segmentation

/-!
# Classes of characters by name

Names are compared without case, blanks, hyphens and underscores, and without `is` before
them.  A bare name is looked up as a property, then as a general category, then as a script.
-/

namespace FilterChain.Unicode

/-- A name as it is compared.  Behind `is`, the name `c` would be that of a category, but
`isc` is the name of another property. -/
def comparedName (name : List Char) : String :=
  let keep (text : List Char) : List Char :=
    (text.filter fun c => c.toNat < 0x80 && c ≠ ' ' && c ≠ '_' && c ≠ '-').map Char.toLower
  match name with
  | i :: s :: rest =>
    if i.toLower = 'i' ∧ s.toLower = 's' then
      let kept := keep rest
      if kept = ['c'] then "isc" else String.ofList kept
    else String.ofList (keep name)
  | _ => String.ofList (keep name)

/-- The characters that a bare name denotes.  Three abbreviations of categories are also
abbreviations of properties that are not sets. -/
def charsNamed? (name : List Char) : Option CharSet :=
  let name := comparedName name
  let property := if ["cf", "sc", "lc"].contains name then none else Property.charsNamed? name
  property <|> Category.charsNamed? name <|> (Script.named? name).map Script.chars

/-- The characters whose property has a value. -/
def charsValued? (property value : List Char) : Option CharSet :=
  let value := comparedName value
  match comparedName property with
  | "gc" | "generalcategory" => Category.charsNamed? value
  | "sc" | "script" => (Script.named? value).map Script.chars
  | "scx" | "scriptextensions" => (Script.named? value).map Script.extendedChars
  | "age" => Edition.charsNamed? value
  | "gcb" | "graphemeclusterbreak" => GraphemeBreak.charsNamed? value
  | "wb" | "wordbreak" => WordBreak.charsNamed? value
  | "sb" | "sentencebreak" => SentenceBreak.charsNamed? value
  | _ => none

/-- The characters of words: alphabetic ones, marks, digits, connectors and joiners. -/
def wordChars : CharSet :=
  CharSet.unionAll [Property.chars .alphabetic, Property.chars .joinControl,
    Category.charsOf (.decimalNumber :: .connectorPunctuation :: Category.marks)]

def digitChars : CharSet := Category.chars .decimalNumber

end FilterChain.Unicode
