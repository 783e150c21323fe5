import Deobfuscation.Proofs.Template.MissingObject
import Deobfuscation.Proofs.Template.ReadBack

/-!
# Fields of missing objects

Where a field of a missing object is read or written, the message names its type, its class and the
field:

    …: Attempt to read from field 'type class.field' on a null object reference

The quotation mark behind the field may be a character of its name, so what is read as the field is
not the longest name there is.  But the blank behind the mark is none, and only one name ends right
in front of the mark and this blank.

A type that ends in the word `at` is different: the word and the blank behind it begin a frame of a
stack trace, for which a line is searched before all else.  Its class is that of the message, and
its method is the field with the quotation mark.

* `NamedField` — a field as a message names it, its parts and the frame it tells;
* `FieldAccess` — reading and writing, and the message about either;
* `first_fieldBeforeQuote`, `first_fieldAccess` — **proved**: how the message is read;
* `parse?_fieldLine_at` — **proved**: how it is read as a frame of a stack trace;
* `parse?_fieldLine` — **proved**: the message tells the field, unless its type ends in the word.
-/

namespace Deobfuscation.Template

open Regex Expr
open scoped Computability

/-! ### Named fields -/

/-- A field as a message names it. -/
structure NamedField where
  type : List Char
  className : List Char
  field : List Char
  deriving DecidableEq, Repr

namespace NamedField

/-- The names are two paths and a segment. -/
structure Legible (f : NamedField) : Prop where
  type : IsPath f.type
  className : IsPath f.className
  field : IsSegment f.field

/-- The class and the field as they are written behind the type. -/
def member (f : NamedField) : List Char := f.className ++ '.' :: f.field

/-- The field as parts of a line, behind the beginning of the line. -/
def parts (opening : List Char) (f : NamedField) : List LinePart :=
  [⟨opening, .type, f.type⟩, ⟨[' '], .dottedClass, f.className⟩, ⟨['.'], .field, f.field⟩]

/-- The frame that the field tells. -/
def frame (f : NamedField) : StackFrame :=
  { StackFrame.unknown with
    className := String.ofList f.className
    type := String.ofList f.type
    field := String.ofList f.field }

/-- The parts of a field are read as the field. -/
theorem foldl_read_parts {f : NamedField} (hf : f.Legible) (opening : List Char) :
    (f.parts opening).foldl LinePart.read .unknown = f.frame := by
  have htype : f.type.isEmpty = false := List.isEmpty_eq_false_iff.2 hf.type.ne_nil
  have hclass : f.className.isEmpty = false := List.isEmpty_eq_false_iff.2 hf.className.ne_nil
  have hfield : f.field.isEmpty = false := List.isEmpty_eq_false_iff.2 hf.field.ne_nil
  simp only [parts, List.foldl_cons, List.foldl_nil, LinePart.read, htype, hclass, hfield,
    Bool.false_eq_true, if_false, Placeholder.read, frame]

end NamedField

/-! ### The message -/

/-- What was attempted on the field of a missing object. -/
inductive FieldAccess where
  | read
  | write
  deriving DecidableEq, Repr

namespace FieldAccess

/-- The words of the message. -/
def attempt : FieldAccess → String
  | read => "read from field"
  | write => "write to field"

/-- The first group of the alternative for the message. -/
def group : FieldAccess → Nat
  | read => 7
  | write => 10

/-- The message about a field. -/
def line (access : FieldAccess) (f : NamedField) : List Char :=
  missingObjectLine access.attempt f.type f.member

theorem isAttempt (access : FieldAccess) : IsAttempt access.attempt := by
  cases access with
  | read => exact ⟨by decide, by decide, by decide⟩
  | write => exact ⟨by decide, by decide, by decide⟩

/-- The alternative for the message. -/
def expr (access : FieldAccess) : Expr :=
  afterWords (seq (literal (attemptTo access.attempt))
    (seq (.group access.group typeExpr)
      (seq (char ' ') (memberOfClassExpr (access.group + 1) (textExpr onNullReference)))))

theorem expr_read :
    fieldAccessExpr "java.lang.NullPointerException: Attempt to read from field '" 7 =
      read.expr := by
  decide +kernel

theorem expr_write :
    fieldAccessExpr "java.lang.NullPointerException: Attempt to write to field '" 10 =
      write.expr := by
  decide +kernel

/-- The parts of a field and the end of the message make up the line. -/
theorem line_parts (access : FieldAccess) (f : NamedField) :
    LinePart.line (f.parts (attemptTo access.attempt)) onNullReference.toList = access.line f := by
  simp [LinePart.line, NamedField.parts, line, missingObjectLine, NamedField.member]

end FieldAccess

/-! ### How the message is read -/

/-- A member is read by the expression of members. -/
theorem mem_language_member {s : List Char} (hs : IsSegment s) : s ∈ memberExpr.language := by
  rw [memberExpr, language, language, language_optionalExpr, language_optionalExpr]
  refine Language.append_mem_mul (a := []) (Or.inl Language.nil_mem_one) ?_
  rw [← List.append_nil s]
  exact Language.append_mem_mul (mem_language_segment hs) (Or.inl Language.nil_mem_one)

/-- A quotation mark may be a character of a member. -/
theorem isSegment_append_quote {s : List Char} (hs : IsSegment s) : IsSegment (s ++ ['\'']) :=
  ⟨by simp, List.forall_mem_append.2 ⟨hs.chars, List.forall_mem_singleton.2 (by decide)⟩⟩

/-- A name ends in front of the blank behind the mark. -/
theorem closed_onNull : Closed " on a null object reference".toList :=
  .of_head_ne (stops_cons (by rw [contains_segmentSet]; decide) _) (by decide)

/-- **A field in front of the end of the message is captured as a whole**, though the quotation mark
may be a character of it. -/
theorem first_fieldBeforeQuote {next : Attempt → Option Attempt} {read field : List Char}
    {captures : List Capture} {r : Attempt} {group : Nat} (hfield : IsSegment field)
    (hnext : next (.between (read ++ field ++ onNullReference.toList) []
      (⟨group, read.length, (read ++ field).length⟩ :: captures)) = some r) :
    (Expr.group group memberExpr).first ((textExpr onNullReference).first next)
      (.between read (field ++ onNullReference.toList) captures) = some r := by
  have hend : onNullReference.toList =
      ['\''] ++ ' ' :: "on a null object reference".toList := by decide +kernel
  have hread : (textExpr onNullReference).first next (.between (read ++ field)
      (onNullReference.toList ++ []) (⟨group, read.length, (read ++ field).length⟩ :: captures)) =
        some r := by
    rw [first_text]
    exact hnext
  rw [List.append_nil] at hread
  rw [first_group]
  rw [hend] at hread ⊢
  refine first_upTo rfl (by decide) (mem_language_member hfield) (by decide) ?_ ?_
  · rw [Attempt.position_between, Attempt.capture_between]
    exact hread
  · -- the text begins with the mark and the blank
    intro read' rest' hnot
    refine first_literal_of_not_prefix fun hbegins => hnot ?_
    have htext : ['\''] ++ [' '] <+: onNullReference.toList :=
      ⟨"on a null object reference".toList, by rw [hend]; rfl⟩
    exact htext.trans hbegins

/-- **The alternative for the message captures the type, the class and the field.** -/
theorem first_fieldAccess (access : FieldAccess) {f : NamedField} (hf : f.Legible) :
    access.expr.first some (.between [] (access.line f) []) =
      some (.between (access.line f) []
        (LinePart.captures access.group [] (f.parts (attemptTo access.attempt)))) := by
  have hline : access.line f = attemptTo access.attempt ++ (f.type ++ ' ' ::
      (f.className ++ '.' :: (f.field ++ ['\''] ++ " on a null object reference".toList))) := by
    rw [FieldAccess.line, missingObjectLine, NamedField.member, onNullReference_eq]
    generalize " on a null object reference".toList = ending
    simp
  have hmark : IsSegment (f.field ++ ['\'']) := isSegment_append_quote hf.field
  rw [FieldAccess.expr]
  refine first_atBeginning hline rfl
    (first_typeBefore hf.type (first_classOfMember hf.className hmark closed_onNull ?_))
  rw [List.append_assoc f.field, List.cons_append, List.nil_append, ← onNullReference_eq]
  refine first_fieldBeforeQuote hf.field ?_
  have hread : attemptTo access.attempt ++ f.type ++ [' '] ++ f.className ++ ['.'] ++ f.field ++
      onNullReference.toList = access.line f := by
    simp [FieldAccess.line, missingObjectLine, NamedField.member]
  rw [hread]
  rfl

/-! ### The message as a whole -/

section Message

variable {access : FieldAccess} {f : NamedField}

/-- The class and the field are a longer path. -/
theorem NamedField.Legible.isPath_member (hf : f.Legible) : IsPath f.member :=
  hf.className.append (.segment hf.field)

/-- **No other alternative of the standard template reads the message**, if its type does not end in
the word. -/
theorem first_standard_fieldLine (hf : f.Legible) (hend : ¬EndsInWord "at".toList f.type) :
    standardExpr.first some (.between [] (access.line f) []) =
      some (.between (access.line f) []
        (LinePart.captures access.group [] (f.parts (attemptTo access.attempt)))) := by
  have hfirst := first_fieldAccess access hf
  have htype : ':' ∉ f.type := hf.type.not_mem (by decide) (by decide)
  have hmember : ':' ∉ f.member := hf.isPath_member.not_mem (by decide) (by decide)
  have hstandard : standardExpr.first some (.between [] (access.line f) []) =
      nullPointerExpr.first some (.between [] (access.line f) []) :=
    first_standard_missingObject access.isAttempt hf.type hf.isPath_member.frameless hmember hend
  rw [hstandard, nullPointerExpr, first_alt, FieldAccess.expr_read, FieldAccess.expr_write]
  cases access with
  | read => rw [hfirst, Option.some_or]
  | write =>
    have hread : FieldAccess.read.expr.first some
        (.between [] (FieldAccess.write.line f) []) = none :=
      first_missingObject_none (v := " Attempt to read".toList) FieldAccess.write.isAttempt htype
        hmember (by decide +kernel) (by decide) (by decide)
    rw [hread, Option.none_or, first_alt, hfirst, Option.some_or]

/-- **The slots of the message are the type, the class and the field.** -/
theorem slots?_fieldLine (hf : f.Legible) (hend : ¬EndsInWord "at".toList f.type) :
    standard.slots? (access.line f) =
      some (LinePart.slots [] (f.parts (attemptTo access.attempt))) := by
  rw [slots?, standard_plan,
    find_of_first isProductive_standardExpr (first_standard_fieldLine hf hend),
    standard_placeholders]
  cases access with
  | read => rfl
  | write => rfl

/-- **A message whose type ends in the word is read as a frame of a stack trace**: of the class, and
of a method that is the field with the quotation mark. -/
theorem parse?_fieldLine_at (hf : f.Legible) (hend : EndsInWord "at".toList f.type) :
    standard.parse? (access.line f) =
      some { StackFrame.unknown with
        className := String.ofList f.className
        method := String.ofList (f.field ++ ['\'']) } := by
  obtain ⟨before, htype, hword⟩ := hend
  have hnewline : '\n' ∉ attemptTo access.attempt ++ before := by
    have hbefore : '\n' ∉ f.type := hf.type.not_mem (by decide) (by decide)
    rw [htype, List.mem_append, not_or] at hbefore
    exact fun h => (List.mem_append.1 h).elim access.isAttempt.newline_not_mem hbefore.1
  have hlast : (attemptTo access.attempt ++ before).getLast?.any Text.isWord = false := by
    cases hbefore : before.getLast? with
    | none =>
      rw [List.getLast?_eq_none_iff.1 hbefore, List.append_nil, getLast?_attemptTo]
      decide
    | some c =>
      rw [hbefore] at hword
      rw [List.getLast?_append, hbefore]
      exact hword
  have hgap : IsGap [' '] := ⟨by simp, List.forall_mem_singleton.2 (by decide)⟩
  have hframes : Frameless (attemptTo access.attempt ++ before ++ "at".toList) := by
    rw [List.append_assoc, ← htype]
    exact access.isAttempt.frameless hf.type.frameless
  have hmark : IsSegment (f.field ++ ['\'']) := isSegment_append_quote hf.field
  have hline : upToMethod (attemptTo access.attempt ++ before) [' '] f.className
      (f.field ++ ['\'']) ++ " on a null object reference".toList = access.line f := by
    rw [FieldAccess.line, missingObjectLine, NamedField.member, onNullReference_eq, htype]
    generalize " on a null object reference".toList = ending
    simp [upToMethod]
  rw [← hline]
  exact parse?_names (isOpening_of_frameless hnewline hlast hgap hframes) hf.className hmark
    closed_onNull (by decide +kernel)

end Message

/-- **The message about a field of a missing object tells the type, the class and the field**,
whatever their names are, unless the type ends in the word `at`; then the message is taken for a
frame of a stack trace. -/
theorem parse?_fieldLine (access : FieldAccess) {f : NamedField} (hf : f.Legible) :
    (¬EndsInWord "at".toList f.type → standard.parse? (access.line f) = some f.frame) ∧
      (EndsInWord "at".toList f.type → standard.parse? (access.line f) =
        some { StackFrame.unknown with
          className := String.ofList f.className
          method := String.ofList (f.field ++ ['\'']) }) := by
  refine ⟨fun hend => ?_, parse?_fieldLine_at hf⟩
  have hslots : standard.slots? (access.line f) = some _ := slots?_fieldLine hf hend
  rw [← access.line_parts] at hslots ⊢
  rw [parse?_line hslots, NamedField.foldl_read_parts hf]

/-- A field of an array type, which is written. -/
theorem parse?_fieldLine_array :
    standard.parse? ("java.lang.NullPointerException: Attempt to write to field " ++
      "'int[] a.b.c' on a null object reference").toList =
        some { StackFrame.unknown with className := "a.b", type := "int[]", field := "c" } := by
  have hf : NamedField.Legible ⟨"int[]".toList, "a.b".toList, "c".toList⟩ := by
    refine ⟨.segment (by decide), ?_, by decide⟩
    exact IsPath.dot (s := ['a']) (by decide) (.segment (by decide))
  have hline : FieldAccess.write.line ⟨"int[]".toList, "a.b".toList, "c".toList⟩ =
      ("java.lang.NullPointerException: Attempt to write to field " ++
        "'int[] a.b.c' on a null object reference").toList := by
    decide +kernel
  rw [← hline]
  exact (parse?_fieldLine .write hf).1 (not_endsInWord_of_not_suffix (by decide))

/-- A type that is the word itself. -/
theorem parse?_fieldLine_word :
    NamedField.Legible ⟨"at".toList, "a".toList, "b".toList⟩ ∧
      standard.parse? ("java.lang.NullPointerException: Attempt to read from field " ++
        "'at a.b' on a null object reference").toList ≠
          some { StackFrame.unknown with className := "a", type := "at", field := "b" } := by
  have hf : NamedField.Legible ⟨"at".toList, "a".toList, "b".toList⟩ :=
    ⟨.segment (by decide), .segment (by decide), by decide⟩
  have hline : FieldAccess.read.line ⟨"at".toList, "a".toList, "b".toList⟩ =
      ("java.lang.NullPointerException: Attempt to read from field " ++
        "'at a.b' on a null object reference").toList := by
    decide +kernel
  refine ⟨hf, ?_⟩
  rw [← hline, parse?_fieldLine_at hf ⟨[], rfl, rfl⟩]
  decide

end Deobfuscation.Template
