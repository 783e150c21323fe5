import Deobfuscation.Proofs.SymbolMap.Cuts
import Deobfuscation.Proofs.Text.Slice

/-!
# Entries by slices

A line can be read without cutting it: its separators are searched for, each from the one before it
on, and the parts of the entry are sliced out between their offsets.  Up to seven offsets depend on
each other in this, and a slice whose offsets are out of order, behind the end or inside a character
fails the whole reading.  It never does: whatever stands in the line, the offsets that are found are
those of its cuts.

* `classOffsets?`, `memberOffsets` — the offsets of the separators, each found from the one before;
* `MemberOffsets.InOrder`, `MemberOffsets.slices` — their order, and the slices between them;
* `classBySlices`, `memberBySlices`, `Entry.bySlices` — the reading by slices, which may fail;
* `memberOffsets_eq`, `memberOffsets_cases` — **proved**: the offsets are the lengths of what stands
  between the cuts;
* `classBySlices_eq`, `nameBySlices_eq`, `memberBySlices_eq` — **proved**: the reading by slices
  gives what the cuts tell, and does not fail;
* `isSlice_class`, `isSlice_name`, `isSlice_member` — **proved**: between the offsets are slices;
* `bySlices_ofText` — **proved**: no text fails the reading by slices, and its offsets stand in the
  order of their separators.
-/

namespace Deobfuscation.SymbolMap

open String (utf8Len)
open Text

/-! ### The offsets of the separators -/

/-- The offsets of the arrow and of the colon of a class entry. -/
def classOffsets? (line : List Char) : Option (Nat × Nat) :=
  (offset? arrow line).bind fun sign =>
    (offsetFrom? [':'] line (sign + 2)).map fun colon => (sign, colon)

/-- The offsets of the two colons of a range, both of them in front of the first space. -/
def rangeOffsets? (line : List Char) : Option (Nat × Nat) :=
  let bound := (offset? [' '] line).getD (utf8Len line)
  ((offset? [':'] line).filter fun offset => decide (offset < bound)).bind fun first =>
    ((offsetFrom? [':'] line (first + 1)).filter fun offset => decide (offset < bound)).map
      fun last => (first, last)

/-- The offsets of the parentheses that follow an offset. -/
def parenthesisOffsets? (line : List Char) (start : Nat) : Option (Nat × Nat) :=
  (offsetFrom? ['('] line start).bind fun opening =>
    (offsetFrom? [')'] line (opening + 1)).map fun closing => (opening, closing)

/-- The offsets of the separators of a member entry: the colons of its range, if it has one, the
space behind its type, its parentheses, if it has any, and its arrow. -/
structure MemberOffsets where
  range : Option (Nat × Nat)
  space : Nat
  parentheses : Option (Nat × Nat)
  sign : Nat
  deriving DecidableEq, Repr

/-- Where the type of a member begins. -/
def typeStart : Option (Nat × Nat) → Nat
  | some (_, last) => last + 1
  | none => 0

/-- The slices of the line numbers of a range. -/
def rangeSlices : Option (Nat × Nat) → List (Nat × Nat)
  | some (first, last) => [(0, first), (first + 1, last)]
  | none => []

/-- The slices of the arguments and of what follows them up to the arrow. -/
def argumentSlices (sign : Nat) : Option (Nat × Nat) → List (Nat × Nat)
  | some (opening, closing) => [(opening + 1, closing), (closing + 1, sign)]
  | none => []

/-- The offsets of the separators of a member entry, each of them found from the one before it on.
-/
def memberOffsets (line : List Char) : Except Fault MemberOffsets :=
  let range := rangeOffsets? line
  match offsetFrom? [' '] line (typeStart range) with
  | none => .error .missingSeparator
  | some space =>
    let parentheses := parenthesisOffsets? line (space + 1)
    let cursor := match parentheses with
      | some (_, closing) => closing
      | none => space
    match offsetFrom? arrow line (cursor + 1) with
    | none => .error .missingArrow
    | some sign => .ok ⟨range, space, parentheses, sign⟩

namespace MemberOffsets

variable (offsets : MemberOffsets)

/-- Where the name of the member begins. -/
def nameStart : Nat := offsets.space + 1

/-- Where the name of the member ends. -/
def nameStop : Nat :=
  match offsets.parentheses with
  | some (opening, _) => opening
  | none => offsets.sign

/-- The offsets stand in the order of the separators. -/
structure InOrder (line : List Char) : Prop where
  first_lt_last : ∀ first last, offsets.range = some (first, last) → first < last
  last_lt_type : ∀ first last, offsets.range = some (first, last) → last < typeStart offsets.range
  type_le_space : typeStart offsets.range ≤ offsets.space
  space_lt_name : offsets.space < offsets.nameStart
  name_le_stop : offsets.nameStart ≤ offsets.nameStop
  opening_lt_closing : ∀ opening closing, offsets.parentheses = some (opening, closing) →
    opening < closing
  closing_lt_sign : ∀ opening closing, offsets.parentheses = some (opening, closing) →
    closing < offsets.sign
  space_lt_sign : offsets.space < offsets.sign
  sign_le_length : offsets.sign + 2 ≤ utf8Len line

/-- The slices between the offsets: the line numbers of the range, the type, the name, the
arguments, what follows them, and the obfuscated name. -/
def slices (line : List Char) : List (Nat × Nat) :=
  rangeSlices offsets.range ++
  ([(typeStart offsets.range, offsets.space), (offsets.nameStart, offsets.nameStop)] ++
  (argumentSlices offsets.sign offsets.parentheses ++
  [(offsets.sign + 2, utf8Len line)]))

end MemberOffsets

/-! ### Reading by slices -/

/-- Reads a class entry by slices, which fails where a slice does. -/
def classBySlices (line : List Char) : Option (Except Fault ClassEntry) :=
  match classOffsets? line with
  | none => some (.error .malformedClass)
  | some (sign, colon) => do
    let plain ← slice? line 0 sign
    let obfuscated ← slice? line (sign + 2) colon
    if (trim plain).isEmpty || (trim obfuscated).isEmpty then return .error .malformedClass
    else return .ok ⟨String.ofList (trim plain), String.ofList (trim obfuscated)⟩

/-- Parts a name from its declaring class by slices. -/
def nameBySlices (name : List Char) : Option (Option String × String) :=
  match lastOffset? '.' name with
  | none => some (none, String.ofList name)
  | some dot => do
    let declaring ← slice? name 0 dot
    let plain ← slice? name (dot + 1) (utf8Len name)
    return (some (String.ofList declaring), String.ofList plain)

/-- The two texts of a range by slices. -/
def rangeBySlices (line : List Char) : Option (Nat × Nat) → Option (Option (List Char × List Char))
  | none => some none
  | some (colon, colon') => do
    let first ← slice? line 0 colon
    let last ← slice? line (colon + 1) colon'
    return some (first, last)

/-- Reads a member entry by slices, which fails where a slice does. -/
def memberBySlices (line : List Char) : Option (Except Fault (Option Entry)) :=
  match memberOffsets line with
  | .error fault => some (.error fault)
  | .ok offsets => do
    let type ← slice? line (typeStart offsets.range) offsets.space
    let name ← slice? line offsets.nameStart offsets.nameStop
    let obfuscated ← slice? line (offsets.sign + 2) (utf8Len line)
    if (trim type).isEmpty || (trim name).isEmpty || (trim obfuscated).isEmpty then return .ok none
    else
      let (declaringClass, plain) ← nameBySlices (trim name)
      match offsets.parentheses with
      | none =>
        return .ok (some (.ofField
          { type := String.ofList (trim type), plain,
            obfuscated := String.ofList (trim obfuscated), declaringClass }))
      | some (opening, closing) =>
        -- all slices are taken before the line numbers are read
        let range ← rangeBySlices line offsets.range
        let suffix ← slice? line (closing + 1) offsets.sign
        let arguments ← slice? line (opening + 1) closing
        return do
          let lines ← obfuscatedLines range
          let lines ← plainLines suffix lines
          return some (.ofMethod
            { type := String.ofList (trim type), plain,
              obfuscated := String.ofList (trim obfuscated), declaringClass,
              arguments := String.ofList (trim arguments), lines })

/-- Reads a line of any kind by slices. -/
def Entry.bySlices (s : List Char) : Option (Except Fault (Option Entry)) :=
  let line := trim s
  if isVacant line then some (.ok none)
  else if isHeader line then
    (classBySlices line).map fun read => read.map fun entry => some (.ofClass entry)
  else memberBySlices line

/-! ### Offsets and cuts -/

/-- The offsets of a class entry are the lengths of what stands between its cuts. -/
theorem classOffsets?_eq (line : List Char) :
    classOffsets? line =
      (cut? arrow line).bind fun (plain, rest) =>
        (cut? [':'] rest).map fun (obfuscated, _) =>
          (utf8Len plain, utf8Len plain + 2 + utf8Len obfuscated) := by
  rw [classOffsets?, offset?]
  cases harrow : cut? arrow line with
  | none => rfl
  | some sides =>
    obtain ⟨plain, rest⟩ := sides
    have hfront : utf8Len plain + 2 = utf8Len (plain ++ arrow) :=
      (String.utf8Len_append plain arrow).symm
    dsimp only [Option.map_some, Option.bind_some]
    rw [offsetFrom?_append (eq_of_cut? harrow) hfront, offset?]
    cases cut? [':'] rest <;> rfl

/-- The offsets of the range that the head of a member leads with. -/
def rangeLengths (head : List Char) : Option (Nat × Nat) :=
  (rangeAndType head).1.map fun (first, last) =>
    (utf8Len first, utf8Len first + 1 + utf8Len last)

theorem rangeOffsets?_eq {line head rest : List Char} (h : cut? [' '] line = some (head, rest)) :
    rangeOffsets? line = rangeLengths head := by
  have hline : line = head ++ ' ' :: rest := by
    rw [eq_of_cut? h, List.append_assoc]
    rfl
  rw [rangeOffsets?, offset?_of_cut? h, Option.getD_some, rangeLengths, rangeAndType]
  have hfirst := filter_offset?_append ':' 0 head (' ' :: rest)
  simp only [Nat.zero_add, Option.map_id', ← hline] at hfirst
  rw [hfirst]
  cases hcolon : cut? [':'] head with
  | none =>
    rw [offset?, hcolon]
    rfl
  | some sides =>
    obtain ⟨first, behind⟩ := sides
    -- the second colon is found behind the first, up to the same space
    have hlength : utf8Len head = utf8Len first + 1 + utf8Len behind := by
      rw [eq_of_cut? hcolon, String.utf8Len_append, String.utf8Len_append]
      rfl
    have hsplit : line = (first ++ [':']) ++ (behind ++ ' ' :: rest) := by
      rw [hline, eq_of_cut? hcolon, List.append_assoc (first ++ [':'])]
    have hfront : utf8Len first + 1 = utf8Len (first ++ [':']) :=
      (String.utf8Len_append first [':']).symm
    dsimp only
    rw [offset?_of_cut? hcolon, Option.bind_some, offsetFrom?_append hsplit hfront, hlength,
      filter_offset?_append, offset?]
    cases cut? [':'] behind <;> rfl

/-- The type of a member stands behind its range. -/
theorem exists_lead (head : List Char) :
    ∃ lead, head = lead ++ (rangeAndType head).2 ∧ utf8Len lead = typeStart (rangeLengths head) ∧
      ∀ first last, (rangeAndType head).1 = some (first, last) →
        lead = first ++ [':'] ++ last ++ [':'] := by
  rw [rangeLengths, rangeAndType]
  cases hfirst : cut? [':'] head with
  | none => exact ⟨[], rfl, rfl, fun _ _ h => absurd h (by simp)⟩
  | some sides =>
    obtain ⟨first, behind⟩ := sides
    dsimp only
    cases hlast : cut? [':'] behind with
    | none => exact ⟨[], rfl, rfl, fun _ _ h => absurd h (by simp)⟩
    | some sides =>
      obtain ⟨last, type⟩ := sides
      refine ⟨first ++ [':'] ++ last ++ [':'], ?_, ?_, ?_⟩
      · rw [eq_of_cut? hfirst, eq_of_cut? hlast]
        simp
      · simp only [String.utf8Len_append]
        rfl
      · intro first' last' h
        obtain ⟨rfl, rfl⟩ := Prod.mk.inj (Option.some.inj h)
        rfl

/-- The space behind the type is the first one of the line. -/
theorem offsetFrom?_space {line head rest : List Char} (h : cut? [' '] line = some (head, rest)) :
    offsetFrom? [' '] line (typeStart (rangeLengths head)) = some (utf8Len head) := by
  obtain ⟨lead, hhead, hlead, -⟩ := exists_lead head
  have hspace : ' ' ∉ (rangeAndType head).2 := fun hmem =>
    not_mem_of_cut? h ((rangeAndType_suffix head).subset hmem)
  have hline : line = lead ++ ((rangeAndType head).2 ++ ' ' :: rest) := by
    rw [eq_of_cut? h, ← List.append_assoc lead, ← hhead, List.append_assoc]
    rfl
  have hlength : utf8Len head = utf8Len lead + utf8Len (rangeAndType head).2 := by
    rw [← String.utf8Len_append, ← hhead]
  rw [offsetFrom?_append hline hlead.symm, offset?_of_cut? (cut?_char hspace rest), Option.map_some,
    hlength, hlead]

/-- The parentheses stand where the text is cut around them. -/
theorem parenthesisOffsets?_eq {line front rest : List Char} {start : Nat}
    (hline : line = front ++ rest) (hstart : start = utf8Len front) :
    parenthesisOffsets? line start =
      (aroundParentheses rest).map fun (name, arguments, _) =>
        (start + utf8Len name, start + utf8Len name + 1 + utf8Len arguments) := by
  rw [parenthesisOffsets?, offsetFrom?_append hline hstart, offset?, aroundParentheses]
  cases hopen : cut? ['('] rest with
  | none => rfl
  | some sides =>
    obtain ⟨name, behind⟩ := sides
    have hsplit : line = (front ++ (name ++ ['('])) ++ behind := by
      rw [hline, eq_of_cut? hopen, List.append_assoc front]
    have hfront : start + utf8Len name + 1 = utf8Len (front ++ (name ++ ['('])) := by
      rw [hstart, String.utf8Len_append, String.utf8Len_append]
      rfl
    dsimp only
    rw [Option.map_some, Option.map_some, Option.bind_some, offsetFrom?_append hsplit hfront,
      offset?]
    cases cut? [')'] behind <;> rfl

/-- **The offsets of a member entry are the lengths of what stands between its cuts.** -/
theorem memberOffsets_eq (line : List Char) :
    memberOffsets line =
      match cut? [' '] line with
      | none => .error .missingSeparator
      | some (head, rest) =>
        match aroundParentheses rest with
        | some (name, arguments, tail) =>
          match cut? arrow tail with
          | none => .error .missingArrow
          | some (suffix, _) =>
            let opening := utf8Len head + 1 + utf8Len name
            let closing := opening + 1 + utf8Len arguments
            .ok ⟨rangeLengths head, utf8Len head, some (opening, closing),
              closing + 1 + utf8Len suffix⟩
        | none =>
          match cut? arrow rest with
          | none => .error .missingArrow
          | some (name, _) =>
            .ok ⟨rangeLengths head, utf8Len head, none, utf8Len head + 1 + utf8Len name⟩ := by
  rw [memberOffsets]
  cases hspace : cut? [' '] line with
  | none =>
    rw [offsetFrom?_of_not_mem (not_mem_of_cut?_none hspace)]
  | some sides =>
    obtain ⟨head, rest⟩ := sides
    have hfront : utf8Len head + 1 = utf8Len (head ++ [' ']) :=
      (String.utf8Len_append head [' ']).symm
    rw [rangeOffsets?_eq hspace, offsetFrom?_space hspace]
    dsimp only
    rw [parenthesisOffsets?_eq (eq_of_cut? hspace) hfront]
    cases hparentheses : aroundParentheses rest with
    | none =>
      rw [Option.map_none]
      dsimp only
      rw [offsetFrom?_append (eq_of_cut? hspace) hfront, offset?]
      cases cut? arrow rest <;> rfl
    | some sides =>
      obtain ⟨name, arguments, tail⟩ := sides
      have hsplit : line = (head ++ [' '] ++ (name ++ ['('] ++ (arguments ++ [')']))) ++ tail := by
        rw [eq_of_cut? hspace, (of_aroundParentheses hparentheses).1]
        simp
      have hclosed : utf8Len head + 1 + utf8Len name + 1 + utf8Len arguments + 1 =
          utf8Len (head ++ [' '] ++ (name ++ ['('] ++ (arguments ++ [')']))) := by
        simp only [String.utf8Len_append]
        show _ = utf8Len head + 1 + (utf8Len name + 1 + (utf8Len arguments + 1))
        omega
      rw [Option.map_some]
      dsimp only
      rw [offsetFrom?_append hsplit hclosed, offset?]
      cases cut? arrow tail <;> rfl

/-! ### What is read by slices -/

/-- **The reading of a class entry by slices does not fail**, and gives what its cuts tell. -/
theorem classBySlices_eq (line : List Char) : classBySlices line = some (classOfText line) := by
  rw [classBySlices, classOffsets?_eq, classOfText]
  cases harrow : cut? arrow line with
  | none => rfl
  | some sides =>
    obtain ⟨plain, rest⟩ := sides
    dsimp only
    rw [Option.bind_some]
    cases hcolon : cut? [':'] rest with
    | none => rfl
    | some sides =>
      obtain ⟨obfuscated, tail⟩ := sides
      have hplain : slice? line 0 (utf8Len plain) = some plain := by
        have hsplit : line = plain ++ (arrow ++ rest) := by
          rw [eq_of_cut? harrow, List.append_assoc]
        exact slice?_front hsplit
      have hobfuscated : slice? line (utf8Len plain + 2)
          (utf8Len plain + 2 + utf8Len obfuscated) = some obfuscated := by
        have hfront : utf8Len plain + 2 = utf8Len (plain ++ arrow) :=
          (String.utf8Len_append plain arrow).symm
        have hsplit : line = (plain ++ arrow) ++ obfuscated ++ ([':'] ++ tail) := by
          rw [eq_of_cut? harrow, eq_of_cut? hcolon, List.append_assoc (plain ++ arrow),
            List.append_assoc obfuscated]
        exact slice?_append hsplit hfront (congrArg (· + _) hfront)
      dsimp only [Option.map_some]
      rw [hplain, hobfuscated]
      simp only [Option.bind_eq_bind, Option.bind_some]
      split <;> rfl

/-- A name is parted from its declaring class by slices as at its last dot. -/
theorem nameBySlices_eq (name : List Char) :
    nameBySlices name = some (declaringClassAndName name) := by
  rw [nameBySlices, lastOffset?, declaringClassAndName]
  cases hcut : cutLast? '.' name with
  | none => rfl
  | some sides =>
    obtain ⟨declaring, plain⟩ := sides
    obtain ⟨hname, -⟩ := eq_of_cutLast? hcut
    have hdeclaring : slice? name 0 (utf8Len declaring) = some declaring := slice?_front hname
    have hplain : slice? name (utf8Len declaring + 1) (utf8Len name) = some plain := by
      have hfront : utf8Len declaring + 1 = utf8Len (declaring ++ ['.']) :=
        (String.utf8Len_append declaring ['.']).symm
      have hsplit : name = (declaring ++ ['.']) ++ plain := by
        rw [hname, List.append_assoc]
        rfl
      exact slice?_back hsplit hfront
    dsimp only [Option.map_some]
    rw [hdeclaring, hplain]
    rfl

/-- The range of a member is sliced out of its line as it is cut out of its head. -/
theorem rangeBySlices_eq {line head rest : List Char} (h : cut? [' '] line = some (head, rest)) :
    rangeBySlices line (rangeLengths head) = some (rangeAndType head).1 := by
  obtain ⟨lead, hhead, -, hlead⟩ := exists_lead head
  rw [rangeLengths]
  cases hrange : (rangeAndType head).1 with
  | none => rfl
  | some range =>
    obtain ⟨first, last⟩ := range
    have hline : line = first ++ [':'] ++ last ++ (':' :: (rangeAndType head).2 ++ ' ' :: rest) := by
      rw [eq_of_cut? h]
      nth_rewrite 1 [hhead]
      rw [hlead first last hrange]
      simp
    have hfirst : slice? line 0 (utf8Len first) = some first := by
      rw [List.append_assoc, List.append_assoc] at hline
      exact slice?_front hline
    have hlast : slice? line (utf8Len first + 1) (utf8Len first + 1 + utf8Len last) =
        some last := by
      have hfront : utf8Len first + 1 = utf8Len (first ++ [':']) :=
        (String.utf8Len_append first [':']).symm
      exact slice?_append hline hfront (congrArg (· + _) hfront)
    dsimp only [Option.map_some, rangeBySlices]
    rw [hfirst, hlast]
    rfl

/-- The type of a member is sliced out of its line as it is cut out of its head. -/
theorem slice?_type {line head rest : List Char} (h : cut? [' '] line = some (head, rest)) :
    slice? line (typeStart (rangeLengths head)) (utf8Len head) = some (rangeAndType head).2 := by
  obtain ⟨lead, hhead, hlead, -⟩ := exists_lead head
  have hlength : utf8Len head = utf8Len lead + utf8Len (rangeAndType head).2 := by
    rw [← String.utf8Len_append, ← hhead]
  have hsplit : line = lead ++ (rangeAndType head).2 ++ ([' '] ++ rest) := by
    rw [← hhead, eq_of_cut? h, List.append_assoc]
  exact slice?_append hsplit hlead.symm hlength

/-- The names of a field are sliced out of its line as they are cut out of it. -/
theorem slice?_field {line head rest name obfuscated : List Char}
    (hspace : cut? [' '] line = some (head, rest))
    (harrow : cut? arrow rest = some (name, obfuscated)) :
    let sign := utf8Len head + 1 + utf8Len name
    slice? line (utf8Len head + 1) sign = some name ∧
      slice? line (sign + 2) (utf8Len line) = some obfuscated := by
  have hname : line = (head ++ [' ']) ++ name ++ (arrow ++ obfuscated) := by
    rw [eq_of_cut? hspace, eq_of_cut? harrow]
    simp
  have hobfuscated : line = (head ++ [' '] ++ name ++ arrow) ++ obfuscated := by
    rw [hname]
    simp
  have hstart : utf8Len head + 1 = utf8Len (head ++ [' ']) :=
    (String.utf8Len_append head [' ']).symm
  have hsign : utf8Len head + 1 + utf8Len name + 2 = utf8Len (head ++ [' '] ++ name ++ arrow) := by
    rw [String.utf8Len_append, String.utf8Len_append, ← hstart]
    rfl
  exact ⟨slice?_append hname hstart (congrArg (· + _) hstart), slice?_back hobfuscated hsign⟩

/-- The names, the arguments and the plain range of a method are sliced out of its line as they are
cut out of it. -/
theorem slice?_method {line head rest name arguments tail suffix obfuscated : List Char}
    (hspace : cut? [' '] line = some (head, rest))
    (hparentheses : aroundParentheses rest = some (name, arguments, tail))
    (harrow : cut? arrow tail = some (suffix, obfuscated)) :
    let opening := utf8Len head + 1 + utf8Len name
    let closing := opening + 1 + utf8Len arguments
    let sign := closing + 1 + utf8Len suffix
    slice? line (utf8Len head + 1) opening = some name ∧
      slice? line (opening + 1) closing = some arguments ∧
      slice? line (closing + 1) sign = some suffix ∧
      slice? line (sign + 2) (utf8Len line) = some obfuscated := by
  let front := head ++ [' '] ++ name ++ ['(']
  let behind := front ++ arguments ++ [')']
  have hname : line = (head ++ [' ']) ++ name ++
      (['('] ++ arguments ++ [')'] ++ suffix ++ arrow ++ obfuscated) := by
    rw [eq_of_cut? hspace, (of_aroundParentheses hparentheses).1, eq_of_cut? harrow]
    simp
  have harguments : line = front ++ arguments ++ ([')'] ++ suffix ++ arrow ++ obfuscated) := by
    rw [hname]
    simp [front]
  have hsuffix : line = behind ++ suffix ++ (arrow ++ obfuscated) := by
    rw [harguments]
    simp [behind]
  have hobfuscated : line = (behind ++ suffix ++ arrow) ++ obfuscated := by
    rw [hsuffix, List.append_assoc _ arrow]
  have hstart : utf8Len head + 1 = utf8Len (head ++ [' ']) :=
    (String.utf8Len_append head [' ']).symm
  have hfront : utf8Len head + 1 + utf8Len name + 1 = utf8Len front := by
    rw [String.utf8Len_append, String.utf8Len_append, ← hstart]
    rfl
  have hbehind : utf8Len front + utf8Len arguments + 1 = utf8Len behind := by
    rw [String.utf8Len_append (front ++ arguments), String.utf8Len_append front]
    rfl
  have hsign : utf8Len behind + utf8Len suffix + 2 = utf8Len (behind ++ suffix ++ arrow) := by
    rw [String.utf8Len_append (behind ++ suffix), String.utf8Len_append behind]
    rfl
  dsimp only
  rw [hfront, hbehind]
  exact ⟨slice?_append hname hstart (congrArg (· + _) hstart), slice?_append harguments rfl rfl,
    slice?_append hsuffix rfl rfl, slice?_back hobfuscated hsign⟩

/-- **The reading of a member entry by slices does not fail**, and gives what its cuts tell. -/
theorem memberBySlices_eq (line : List Char) : memberBySlices line = some (memberOfText line) := by
  rw [memberBySlices, memberOffsets_eq, memberOfText]
  cases hspace : cut? [' '] line with
  | none => rfl
  | some sides =>
    obtain ⟨head, rest⟩ := sides
    dsimp only
    cases hparentheses : aroundParentheses rest with
    | none =>
      dsimp only
      cases harrow : cut? arrow rest with
      | none => rfl
      | some sides =>
        obtain ⟨name, obfuscated⟩ := sides
        obtain ⟨hname, hobfuscated⟩ := slice?_field hspace harrow
        dsimp only [MemberOffsets.nameStart, MemberOffsets.nameStop]
        rw [slice?_type hspace, hname, hobfuscated, fieldOfParts]
        simp only [Option.bind_eq_bind, Option.bind_some]
        split
        · rfl
        · rw [nameBySlices_eq]
          rfl
    | some sides =>
      obtain ⟨name, arguments, tail⟩ := sides
      dsimp only
      cases harrow : cut? arrow tail with
      | none => rfl
      | some sides =>
        obtain ⟨suffix, obfuscated⟩ := sides
        obtain ⟨hname, harguments, hsuffix, hobfuscated⟩ :=
          slice?_method hspace hparentheses harrow
        dsimp only [MemberOffsets.nameStart, MemberOffsets.nameStop]
        rw [slice?_type hspace, hname, hobfuscated, methodOfParts]
        simp only [Option.bind_eq_bind, Option.bind_some]
        split
        · rfl
        · rw [nameBySlices_eq, rangeBySlices_eq hspace, hsuffix, harguments]
          rfl

/-! ### The order of the offsets -/

/-- **The offsets of a class entry are those of slices.** -/
theorem isSlice_class {line : List Char} {sign colon : Nat}
    (h : classOffsets? line = some (sign, colon)) :
    IsSlice line 0 sign ∧ IsSlice line (sign + 2) colon := by
  have hread := classBySlices_eq line
  rw [classBySlices, h] at hread
  obtain ⟨_, hplain, hread⟩ := Option.bind_eq_some_iff.1 hread
  obtain ⟨_, hobfuscated, -⟩ := Option.bind_eq_some_iff.1 hread
  exact ⟨isSlice_of_slice? hplain, isSlice_of_slice? hobfuscated⟩

/-- **The offset of the last dot of a name is that of slices.** -/
theorem isSlice_name {name : List Char} {dot : Nat} (h : lastOffset? '.' name = some dot) :
    IsSlice name 0 dot ∧ IsSlice name (dot + 1) (utf8Len name) := by
  have hread := nameBySlices_eq name
  rw [nameBySlices, h] at hread
  obtain ⟨_, hdeclaring, hread⟩ := Option.bind_eq_some_iff.1 hread
  obtain ⟨_, hplain, -⟩ := Option.bind_eq_some_iff.1 hread
  exact ⟨isSlice_of_slice? hdeclaring, isSlice_of_slice? hplain⟩

theorem isSlice_range {line head rest : List Char} (h : cut? [' '] line = some (head, rest)) :
    ∀ slice ∈ rangeSlices (rangeLengths head), IsSlice line slice.1 slice.2 := by
  cases hrange : rangeLengths head with
  | none => exact List.forall_mem_nil _
  | some range =>
    have hread := rangeBySlices_eq h
    rw [hrange, rangeBySlices] at hread
    obtain ⟨_, hfirst, hread⟩ := Option.bind_eq_some_iff.1 hread
    obtain ⟨_, hlast, -⟩ := Option.bind_eq_some_iff.1 hread
    refine List.forall_mem_cons.2 ⟨isSlice_of_slice? hfirst, ?_⟩
    exact List.forall_mem_singleton.2 (isSlice_of_slice? hlast)

/-- The offsets of a member entry are found at the cuts of a field or at those of a method. -/
theorem memberOffsets_cases {line : List Char} {offsets : MemberOffsets}
    (h : memberOffsets line = .ok offsets) :
    ∃ head rest, cut? [' '] line = some (head, rest) ∧
      ((∃ name obfuscated, aroundParentheses rest = none ∧
          cut? arrow rest = some (name, obfuscated) ∧
          offsets =
            ⟨rangeLengths head, utf8Len head, none, utf8Len head + 1 + utf8Len name⟩) ∨
        ∃ name arguments tail suffix obfuscated,
          aroundParentheses rest = some (name, arguments, tail) ∧
          cut? arrow tail = some (suffix, obfuscated) ∧
          let opening := utf8Len head + 1 + utf8Len name
          let closing := opening + 1 + utf8Len arguments
          offsets = ⟨rangeLengths head, utf8Len head, some (opening, closing),
            closing + 1 + utf8Len suffix⟩) := by
  rw [memberOffsets_eq] at h
  split at h
  · exact absurd h (by simp)
  · rename_i head rest hspace
    refine ⟨head, rest, hspace, ?_⟩
    split at h
    · rename_i name arguments tail hparentheses
      split at h
      · exact absurd h (by simp)
      · rename_i suffix obfuscated harrow
        exact .inr ⟨name, arguments, tail, suffix, obfuscated, hparentheses, harrow,
          (Except.ok.inj h).symm⟩
    · rename_i hparentheses
      split at h
      · exact absurd h (by simp)
      · rename_i name obfuscated harrow
        exact .inl ⟨name, obfuscated, hparentheses, harrow, (Except.ok.inj h).symm⟩

/-- **The offsets of a member entry are those of slices.** -/
theorem isSlice_member {line : List Char} {offsets : MemberOffsets}
    (h : memberOffsets line = .ok offsets) :
    ∀ slice ∈ offsets.slices line, IsSlice line slice.1 slice.2 := by
  obtain ⟨head, rest, hspace, hcuts⟩ := memberOffsets_cases h
  have hrange := isSlice_range hspace
  have htype := isSlice_of_slice? (slice?_type hspace)
  rcases hcuts with ⟨name, obfuscated, -, harrow, rfl⟩ |
    ⟨name, arguments, tail, suffix, obfuscated, hparentheses, harrow, rfl⟩
  · obtain ⟨hname, hobfuscated⟩ := slice?_field hspace harrow
    refine List.forall_mem_append.2 ⟨hrange, List.forall_mem_cons.2 ⟨htype, ?_⟩⟩
    refine List.forall_mem_cons.2 ⟨isSlice_of_slice? hname, ?_⟩
    exact List.forall_mem_singleton.2 (isSlice_of_slice? hobfuscated)
  · obtain ⟨hname, harguments, hsuffix, hobfuscated⟩ := slice?_method hspace hparentheses harrow
    refine List.forall_mem_append.2 ⟨hrange, List.forall_mem_cons.2 ⟨htype, ?_⟩⟩
    refine List.forall_mem_cons.2 ⟨isSlice_of_slice? hname, ?_⟩
    refine List.forall_mem_cons.2 ⟨isSlice_of_slice? harguments, ?_⟩
    refine List.forall_mem_cons.2 ⟨isSlice_of_slice? hsuffix, ?_⟩
    exact List.forall_mem_singleton.2 (isSlice_of_slice? hobfuscated)

/-- Offsets between which there are slices stand in the order of the separators. -/
theorem inOrder_of_isSlice {line : List Char} {offsets : MemberOffsets}
    (h : ∀ slice ∈ offsets.slices line, IsSlice line slice.1 slice.2) : offsets.InOrder line := by
  have hle : ∀ slice ∈ offsets.slices line, slice.1 ≤ slice.2 := fun slice hslice =>
    (h slice hslice).start_le_stop
  obtain ⟨range, space, parentheses, sign⟩ := offsets
  obtain ⟨hrange, hrest⟩ := List.forall_mem_append.1 hle
  obtain ⟨hnames, hrest⟩ := List.forall_mem_append.1 hrest
  obtain ⟨hparentheses, hobfuscated⟩ := List.forall_mem_append.1 hrest
  obtain ⟨htype, hname⟩ := List.forall_mem_cons.1 hnames
  have hname := List.forall_mem_singleton.1 hname
  have hsign := List.forall_mem_singleton.1 hobfuscated
  have hfirst : ∀ first last, range = some (first, last) → first < last := by
    rintro first last rfl
    exact hrange (first + 1, last) (by simp [rangeSlices])
  have hlast : ∀ first last, range = some (first, last) → last < typeStart range := by
    rintro first last rfl
    exact Nat.lt_succ_self last
  have hopening : ∀ opening closing, parentheses = some (opening, closing) →
      opening < closing := by
    rintro opening closing rfl
    exact hparentheses (opening + 1, closing) (by simp [argumentSlices])
  have hclosing : ∀ opening closing, parentheses = some (opening, closing) → closing < sign := by
    rintro opening closing rfl
    exact hparentheses (closing + 1, sign) (by simp [argumentSlices])
  have hspace : space < sign := by
    cases parentheses with
    | none => exact hname
    | some sides =>
      have hopened : space < sides.1 := hname
      have hclosed := hopening _ _ rfl
      exact (hopened.trans hclosed).trans (hclosing _ _ rfl)
  exact ⟨hfirst, hlast, htype, Nat.lt_succ_self space, hname, hopening, hclosing, hspace, hsign⟩

/-- **No text fails the reading by slices**, which gives what its cuts tell: the offsets that are
found in it, as a line of any kind or as a name, stand in the order of their separators, and all
that is sliced out between them is a slice. -/
theorem bySlices_ofText (s : List Char) :
    Entry.bySlices s = some (Entry.ofText s) ∧
      classBySlices s = some (classOfText s) ∧
      memberBySlices s = some (memberOfText s) ∧
      (∀ sign colon, classOffsets? s = some (sign, colon) →
        IsSlice s 0 sign ∧ IsSlice s (sign + 2) colon) ∧
      (∀ offsets, memberOffsets s = .ok offsets →
        offsets.InOrder s ∧ ∀ slice ∈ offsets.slices s, IsSlice s slice.1 slice.2) ∧
      ∀ dot, lastOffset? '.' s = some dot → IsSlice s 0 dot ∧ IsSlice s (dot + 1) (utf8Len s) := by
  refine ⟨?_, classBySlices_eq s, memberBySlices_eq s, fun _ _ => isSlice_class,
    fun offsets hoffsets => ?_, fun _ => isSlice_name⟩
  · rw [Entry.bySlices, Entry.ofText, classBySlices_eq, memberBySlices_eq]
    split
    · rfl
    · split <;> rfl
  · have hslices := isSlice_member hoffsets
    exact ⟨inOrder_of_isSlice hslices, hslices⟩

/-- A method whose type, argument and obfuscated name have characters of several bytes. -/
def wideLine : List Char := "1:2:é a.b(ü):3 -> ñ".toList

theorem bySlices_ofText_wide :
    memberOffsets wideLine = .ok ⟨some (1, 3), 6, some (10, 13), 17⟩ ∧
      (⟨some (1, 3), 6, some (10, 13), 17⟩ : MemberOffsets).InOrder wideLine ∧
      IsSlice wideLine 4 6 ∧
      Entry.bySlices wideLine = some (.ok (some (.ofMethod
        ⟨"é", "b", "ñ", some "a", "ü", ⟨1, 2, 3, 3⟩⟩))) := by
  have hoffsets : memberOffsets wideLine = .ok ⟨some (1, 3), 6, some (10, 13), 17⟩ := by
    decide +kernel
  obtain ⟨hread, -, -, -, hmember, -⟩ := bySlices_ofText wideLine
  obtain ⟨horder, hslices⟩ := hmember _ hoffsets
  refine ⟨hoffsets, horder, hslices (4, 6) (by decide), ?_⟩
  rw [hread]
  decide +kernel

end Deobfuscation.SymbolMap
