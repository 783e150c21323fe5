import Deobfuscation.Text.Cut

/-!
# Class names

A class name is a path of segments, joined by dots in source code and by slashes inside class
files.  The last segment names the class itself; a dollar sign in it parts the class from the
classes nested in it.  The source file of a class is named after its outermost class.

* `dotted`, `slashed` — the two forms of a path;
* `sourceFile` — the source file that a class is expected in;
* `slashed_dotted` — **proved**: a path without dots survives the way to the dotted form and
  back.
-/

namespace Deobfuscation.ClassName

/-- The path joined by dots. -/
def dotted (name : List Char) : List Char := name.map fun c => if c = '/' then '.' else c

/-- The path joined by slashes. -/
def slashed (name : List Char) : List Char := name.map fun c => if c = '.' then '/' else c

/-- The last segment of a dotted path. -/
def lastSegment (name : List Char) : List Char :=
  match Text.cutLast? '.' name with
  | some (_, segment) => segment
  | none => name

/-- The segment without the names of nested classes.  A dollar sign at its beginning belongs to
the name. -/
def outermost (segment : List Char) : List Char :=
  if segment.head? = some '$' then segment else segment.takeWhile (· ≠ '$')

/-- The source file of a class; none for no class. -/
def sourceFile (name : String) : String :=
  if name.isEmpty then "" else String.ofList (outermost (lastSegment name.toList)) ++ ".java"

/-- **A path without dots survives the way to the dotted form and back.** -/
theorem slashed_dotted {name : List Char} (h : '.' ∉ name) : slashed (dotted name) = name := by
  induction name with
  | nil => rfl
  | cons c name ih =>
    simp only [List.mem_cons, not_or] at h
    have hrest := ih h.2
    simp only [slashed, dotted, List.map_cons, List.cons.injEq] at hrest ⊢
    refine ⟨?_, hrest⟩
    by_cases hc : c = '/'
    · simp [hc]
    · have : c ≠ '.' := fun heq => h.1 heq.symm
      simp [hc, this]

end Deobfuscation.ClassName
