import Std.Data.TreeMap

/-!
# An index of members

Obfuscation gives one name to several members of a class, so a name leads to a list: the
distinct symbols, in the order in which they were first added.

* `MemberKey` — a class and an obfuscated member name;
* `MemberIndex` — a list of symbols for each key, and how many there are in all;
* `find_insert` — **proved**: adding a symbol that is new to its key puts it at the end of
  the key's list, adding a known one changes nothing, and no other key is concerned.
-/

namespace Deobfuscation

/-- The plain name of a class and the obfuscated name of a member of it. -/
structure MemberKey where
  owner : String
  name : String
  deriving DecidableEq, Repr

namespace MemberKey

instance : Ord MemberKey :=
  ⟨compareLex (compareOn MemberKey.owner) (compareOn MemberKey.name)⟩

instance : Std.TransOrd MemberKey :=
  inferInstanceAs (Std.TransCmp (compareLex (compareOn MemberKey.owner) (compareOn MemberKey.name)))

instance : Std.LawfulEqOrd MemberKey where
  compare_self := Std.ReflCmp.compare_self
  eq_of_compare {a b} h := by
    have hlex : compareLex (compareOn MemberKey.owner) (compareOn MemberKey.name) a b = .eq := h
    rw [compareLex_eq_eq] at hlex
    obtain ⟨howner, hname⟩ := hlex
    cases a
    cases b
    simp only [compareOn, Std.LawfulEqOrd.compare_eq_iff_eq] at howner hname
    simp_all

end MemberKey

/-- The symbols of the members of all classes, and their number. -/
structure MemberIndex (α : Type) where
  lists : Std.TreeMap MemberKey (List α)
  size : Nat

namespace MemberIndex

variable {α : Type}

/-- No member is known. -/
def empty : MemberIndex α := ⟨∅, 0⟩

instance : Inhabited (MemberIndex α) := ⟨empty⟩

/-- The symbols of a member. -/
def find (index : MemberIndex α) (key : MemberKey) : List α := index.lists.getD key []

/-- Adds a symbol to those of a member, unless it is among them. -/
def insert [DecidableEq α] (index : MemberIndex α) (key : MemberKey) (symbol : α) :
    MemberIndex α :=
  if symbol ∈ index.find key then index
  else ⟨index.lists.insert key (index.find key ++ [symbol]), index.size + 1⟩

@[simp] theorem find_empty (key : MemberKey) : (empty : MemberIndex α).find key = [] := by
  simp [find, empty]

/-- **A new symbol goes to the end of its list, a known one changes nothing, and no other
list is concerned.** -/
theorem find_insert [DecidableEq α] (index : MemberIndex α) (key other : MemberKey)
    (symbol : α) :
    (index.insert key symbol).find other =
      if key = other ∧ symbol ∉ index.find key then index.find key ++ [symbol]
      else index.find other := by
  unfold insert
  by_cases hmem : symbol ∈ index.find key
  · simp [hmem]
  · rw [if_neg hmem]
    by_cases hkey : key = other
    · subst hkey
      rw [if_pos ⟨rfl, hmem⟩]
      exact Std.TreeMap.getD_insert_self
    · rw [if_neg fun h => hkey h.1]
      simp [find, Std.TreeMap.getD_insert, hkey]

/-- Adding a symbol raises the number by one exactly when it is new to its list. -/
theorem size_insert [DecidableEq α] (index : MemberIndex α) (key : MemberKey) (symbol : α) :
    (index.insert key symbol).size =
      if symbol ∈ index.find key then index.size else index.size + 1 := by
  unfold insert
  split <;> rfl

end MemberIndex

end Deobfuscation
