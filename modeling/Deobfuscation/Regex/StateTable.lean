import Std.Data.TreeMap

/-!
# Tables of states

While an automaton is built, a table remembers the states that are built already, so that a
state that is needed again need not be built again.  A state is described by a key, and its
place in the table follows from the **fingerprint** of the key.  A table has so many places, each
for one state: a state that comes to an occupied place takes it, and the one before is forgotten.
So a state that is found has been built, but a state that has been built may not be found.

* `fingerprint`, `StateTable.place` — the place of a key;
* `StateTable.find?`, `StateTable.insert` — looking a state up, and remembering it.
-/

namespace Deobfuscation.Regex

/-- The number from which a fingerprint starts. -/
def fingerprintStart : UInt64 := 14695981039346656037

/-- The factor of each step of a fingerprint. -/
def fingerprintFactor : UInt64 := 1099511628211

/-- The fingerprint of numbers: each is put into the one so far and all of it is multiplied. -/
def fingerprint (key : List Nat) : UInt64 :=
  key.foldl (fun sum n => (sum ^^^ UInt64.ofNat n) * fingerprintFactor) fingerprintStart

/-- A state that is remembered: its key and its number. -/
structure KnownState where
  key : List Nat
  state : Nat

/-- A table with one more place than `lastPlace`, and the states at those of its places that are
occupied. -/
structure StateTable where
  lastPlace : Nat
  entries : Std.TreeMap Nat KnownState

namespace StateTable

/-- A table without states. -/
def ofLastPlace (lastPlace : Nat) : StateTable := ⟨lastPlace, ∅⟩

/-- The place of a key. -/
def place (table : StateTable) (key : List Nat) : Nat :=
  (fingerprint key).toNat % (table.lastPlace + 1)

/-- The state of a key, if the table remembers it. -/
def find? (table : StateTable) (key : List Nat) : Option Nat :=
  match table.entries[table.place key]? with
  | some known => if known.key = key then some known.state else none
  | none => none

/-- The table with a state at the place of its key. -/
def insert (table : StateTable) (key : List Nat) (state : Nat) : StateTable :=
  { table with entries := table.entries.insert (table.place key) ⟨key, state⟩ }

end StateTable

end Deobfuscation.Regex
