import Deobfuscation.Text.Cut
import Deobfuscation.Text.Digit

/-!
# Repertoires

A repertoire is a set of characters as a standard describes it: listed, or made from other sets.
A listing gives code points in hexadecimal, parted by blanks: `41` is one of them, `41-5A` those
from the first to the last, and `100-12E/2` every second one of them.

Sets go by names.  Two spellings are the same name if they differ in case, in blanks, hyphens
and underscores, or in the word *is* in front only.

* `Run`, `Run.ofWord` — the entries of a listing;
* `Repertoire` — the descriptions;
* `Repertoire.ranges`, `Repertoire.contains` — the set that is described, and its members;
* `NamedSet`, `findNamed?` — sets and the names they go by.
-/

namespace Deobfuscation.Unicode

/-! ### Listings -/

/-- Every `step`-th code point from a first to a last one. -/
structure Run where
  first : Nat
  last : Nat
  step : Nat
  deriving DecidableEq, Repr

namespace Run

/-- The number that hexadecimal digits write. -/
def number (digits : List Char) : Nat := (Text.hexNumber? digits).getD 0

/-- The run that an entry of a listing gives. -/
def ofWord (entry : List Char) : Run :=
  let (bounds, step) := match Text.cut? ['/'] entry with
    | some (bounds, step) => (bounds, number step)
    | none => (entry, 1)
  match Text.cut? ['-'] bounds with
  | some (first, last) => ⟨number first, number last, step⟩
  | none => ⟨number bounds, number bounds, 1⟩

/-- How many code points the run has. -/
def size (r : Run) : Nat := (r.last - r.first) / r.step + 1

/-- The ranges of the run. -/
def ranges (r : Run) : Ranges :=
  if r.step = 1 then [(r.first, r.last)]
  else (List.range r.size).map fun i => (r.first + r.step * i, r.first + r.step * i)

/-- A code point belongs to the run. -/
def contains (r : Run) (n : Nat) : Bool :=
  r.first ≤ n && n ≤ r.last && (n - r.first) % r.step == 0

end Run

/-- The entries of a listing. -/
def entries (listing : String) : List (List Char) :=
  (Text.splitOn ' ' (listing.toList.map fun c => if Text.isBlank c then ' ' else c)).filter
    fun entry => !entry.isEmpty

/-- The runs of a listing. -/
def runs (listing : String) : List Run := (entries listing).map Run.ofWord

/-! ### Descriptions -/

/-- A set of characters as it is described. -/
inductive Repertoire where
  /-- The characters of a listing, in ascending order. -/
  | listed (listing : String)
  /-- The characters of given ranges. -/
  | given (ranges : Ranges)
  /-- The characters of either set. -/
  | union (s t : Repertoire)
  /-- The characters of the first set that are not in the second. -/
  | without (s t : Repertoire)
  deriving Repr, Inhabited

namespace Repertoire

instance : Union Repertoire := ⟨union⟩

instance : SDiff Repertoire := ⟨without⟩

/-- The empty set. -/
def nothing : Repertoire := given []

/-- All characters. -/
def anything : Repertoire := given (Ranges.complement [])

/-- The set that is described. -/
def ranges : Repertoire → Ranges
  | listed listing => (runs listing).flatMap Run.ranges
  | given ranges => ranges
  | union s t => Ranges.union s.ranges t.ranges
  | without s t => Ranges.difference s.ranges t.ranges

/-- A code point belongs to the set that is described. -/
def contains (n : Nat) : Repertoire → Bool
  | listed listing => (runs listing).any fun r => r.contains n
  | given ranges => Ranges.contains ranges n
  | union s t => s.contains n || t.contains n
  | without s t => s.contains n && !t.contains n

end Repertoire

/-! ### Names -/

/-- A name begins with the word *is*. -/
def beginsWithIs : List Char → Bool
  | c :: d :: _ => c.toLower == 'i' && d.toLower == 's'
  | _ => false

/-- A name without blanks, hyphens, underscores and case. -/
def plainName (name : List Char) : List Char :=
  (name.filter fun c => c.toNat < 0x80 && c != ' ' && c != '_' && c != '-').map Char.toLower

/-- A name without what does not tell it from others.  The name `isc` is a whole. -/
def looseName (name : List Char) : List Char :=
  if beginsWithIs name && plainName (name.drop 2) != ['c'] then plainName (name.drop 2)
  else plainName name

/-- A set of characters and the names it goes by. -/
structure NamedSet where
  names : List String
  members : Repertoire
  deriving Repr, Inhabited

/-- The set goes by a loose name. -/
def NamedSet.hasName (s : NamedSet) (name : List Char) : Bool :=
  s.names.any fun known => looseName known.toList == name

/-- The first set that goes by a loose name. -/
def findNamed? (sets : List NamedSet) (name : List Char) : Option Repertoire :=
  (sets.find? fun s => s.hasName name).map NamedSet.members

end Deobfuscation.Unicode
