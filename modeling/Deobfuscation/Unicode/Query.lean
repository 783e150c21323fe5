import Deobfuscation.Unicode.Age
import Deobfuscation.Unicode.ScriptExtension
import Deobfuscation.Unicode.Segmentation

/-!
# Queries

A query asks for a set of characters by name.  A name alone is that of a property, a general
category or a script; a name and a value, parted by an equals sign or a colon, ask for the
characters whose property has the value, and `!=` for those whose property has not.

* `Query` — what is asked for;
* `Query.ofText?` — the query that a text writes, if it asks for a known set.
-/

namespace Deobfuscation.Unicode

/-- A set of characters, or all the others. -/
structure Query where
  negated : Bool
  members : Repertoire
  deriving Repr

namespace Query

/-- The set that goes by a name of its own. -/
def named? (name : List Char) : Option Repertoire :=
  let name := looseName name
  findNamed? properties name <|> findNamed? categories name <|> findNamed? scripts name

/-- The characters that are used with the script of a loose name. -/
def extendedScript? (name : List Char) : Option Repertoire :=
  (scripts.find? fun script => script.hasName name).map extendedScript

/-- The characters whose property has a value. -/
def valued? (property value : List Char) : Option Repertoire :=
  let value := looseName value
  match String.ofList (looseName property) with
  | "gc" | "generalcategory" => findNamed? categories value
  | "sc" | "script" => findNamed? scripts value
  | "scx" | "scriptextensions" => extendedScript? value
  | "age" => findNamed? ages value
  | "gcb" | "graphemeclusterbreak" => findNamed? graphemeBreaks value
  | "wb" | "wordbreak" => findNamed? wordBreaks value
  | "sb" | "sentencebreak" => findNamed? sentenceBreaks value
  | _ => none

/-- The query that a text writes. -/
def ofText? (s : List Char) : Option Query :=
  match Text.cut? ['!', '='] s with
  | some (property, value) => (valued? property value).map (⟨true, ·⟩)
  | none =>
    match (Text.cut? [':'] s).or (Text.cut? ['='] s) with
    | some (property, value) => (valued? property value).map (⟨false, ·⟩)
    | none => (named? s).map (⟨false, ·⟩)

end Query

end Deobfuscation.Unicode
