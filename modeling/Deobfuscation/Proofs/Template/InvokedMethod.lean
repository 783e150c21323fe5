import Deobfuscation.Proofs.Template.MissingObject

/-!
# Methods invoked on missing objects

Where a method is invoked on a missing object, the message names its type, its class, the method and
the types of its arguments, and whether it was to be looked up in a class or an interface:

    …: Attempt to invoke virtual method 'type class.method(type, type)' on a null object reference

The quotation marks and commas of the message may be characters of the names as well.  But the type
is followed by a blank and the arguments by a parenthesis, and these are no characters of names.

* `Dispatch`, `Invocation` — what is invoked, the message and the frame that it tells;
* `first_methodInvoked` — **proved**: how the message is read;
* `slots?_invocation` — **proved**: its slots are the type, the class, the method and the arguments;
* `parse?_format_invocation` — **proved**: so it tells these four, and another frame that is written
  into it replaces these four.
-/

namespace Deobfuscation.Template

open Regex Expr

/-! ### Invocations -/

/-- Where an invoked method is looked up. -/
inductive Dispatch where
  | virtual
  | interface
  deriving DecidableEq, Repr

namespace Dispatch

/-- The word of the message. -/
def word : Dispatch → String
  | virtual => "virtual"
  | interface => "interface"

/-- The words of the message. -/
def attempt : Dispatch → String
  | virtual => "invoke virtual method"
  | interface => "invoke interface method"

theorem isAttempt (dispatch : Dispatch) : IsAttempt dispatch.attempt := by
  cases dispatch with
  | virtual => exact ⟨by decide, by decide, by decide⟩
  | interface => exact ⟨by decide, by decide, by decide⟩

end Dispatch

/-- A method that is invoked on a missing object. -/
structure Invocation where
  dispatch : Dispatch
  type : List Char
  method : NamedMethod
  deriving DecidableEq, Repr

namespace Invocation

/-- The names are a path and those of a method. -/
structure Legible (i : Invocation) : Prop where
  type : IsPath i.type
  method : i.method.Legible

/-- The message. -/
def line (i : Invocation) : List Char :=
  missingObjectLine i.dispatch.attempt i.type i.method.text

/-- The type and the method as parts of the message. -/
def parts (i : Invocation) : List LinePart :=
  ⟨attemptTo i.dispatch.attempt, .type, i.type⟩ :: i.method.parts [' ']

/-- The frame that the message tells. -/
def frame (i : Invocation) : StackFrame :=
  { i.method.frame with type := String.ofList i.type }

/-- The same message about the type and the method of a frame. -/
def withFrame (i : Invocation) (frame : StackFrame) : Invocation :=
  ⟨i.dispatch, frame.type.toList, .ofFrame frame⟩

/-- The parts and the end of the message make it up. -/
theorem line_parts (i : Invocation) :
    LinePart.line i.parts (')' :: onNullReference.toList) = i.line := by
  simp [LinePart.line, parts, NamedMethod.parts, line, missingObjectLine, NamedMethod.text]

/-- The parts are read as the frame. -/
theorem foldl_read_parts {i : Invocation} (hi : i.Legible) :
    i.parts.foldl LinePart.read .unknown = i.frame := by
  have htype : i.type.isEmpty = false := List.isEmpty_eq_false_iff.2 hi.type.ne_nil
  have hread : LinePart.read .unknown ⟨attemptTo i.dispatch.attempt, .type, i.type⟩ =
      { StackFrame.unknown with type := String.ofList i.type } := by
    simp only [LinePart.read, htype, Bool.false_eq_true, if_false, Placeholder.read]
  rw [parts, List.foldl_cons, hread, NamedMethod.foldl_read_parts hi.method, frame,
    NamedMethod.frame]
  -- arguments that are empty tell nothing, and nothing is known of them before
  cases hempty : i.method.arguments with
  | nil => rfl
  | cons c arguments => rfl

/-- The parts with the texts of a frame are those of the message about the frame. -/
theorem map_rewritten_parts (i : Invocation) (frame : StackFrame) :
    i.parts.map (LinePart.rewritten false frame) = (i.withFrame frame).parts := rfl

end Invocation

/-! ### How the message is read -/

/-- What the message goes on with behind the words about the lookup. -/
def invokedNameExpr : Expr :=
  seq (.group 13 typeExpr)
    (seq (char ' ') (methodOfClassExpr 14 (textExpr ")' on a null object reference")))

theorem methodInvokedExpr_eq :
    methodInvokedExpr = afterWords
      (seq (literal (nullPointer ++ ':' :: " Attempt to invoke ".toList))
        (seq (alt (textExpr "virtual") (textExpr "interface"))
          (seq (textExpr " method '") invokedNameExpr))) := by
  decide +kernel

theorem attemptTo_dispatch (dispatch : Dispatch) :
    attemptTo dispatch.attempt =
      nullPointer ++ ':' :: " Attempt to invoke ".toList ++
        (dispatch.word.toList ++ " method '".toList) := by
  cases dispatch with
  | virtual => decide +kernel
  | interface => decide +kernel

/-- Either word is read where it stands. -/
theorem first_dispatch (dispatch : Dispatch) {next : Attempt → Option Attempt}
    {read rest : List Char} {captures : List Capture} :
    (alt (textExpr "virtual") (textExpr "interface")).first next
        (.between read (dispatch.word.toList ++ rest) captures) =
      next (.between (read ++ dispatch.word.toList) rest captures) := by
  rw [first_alt]
  cases dispatch with
  | virtual =>
    have hother : (textExpr "interface").first next
        (.between read ("virtual".toList ++ rest) captures) = none :=
      first_literal_of_head_ne (c := 'i') (s := "nterface".toList) (by simp)
    exact (congrArg₂ Option.or (first_text "virtual") hother).trans (Option.or_none)
  | interface =>
    have hother : (textExpr "virtual").first next
        (.between read ("interface".toList ++ rest) captures) = none :=
      first_literal_of_head_ne (c := 'v') (s := "irtual".toList) (by simp)
    exact (congrArg₂ Option.or hother (first_text "interface")).trans (Option.none_or)

/-- **The alternative for the message captures the type, the class, the method and the
arguments.** -/
theorem first_methodInvoked {i : Invocation} (hi : i.Legible) :
    methodInvokedExpr.first some (.between [] i.line []) =
      some (.between i.line [] (LinePart.captures 13 [] i.parts)) := by
  have hline : i.line = nullPointer ++ ':' :: " Attempt to invoke ".toList ++
      (i.dispatch.word.toList ++ (" method '".toList ++ (i.type ++ ' ' :: (i.method.text ++
        onNullReference.toList)))) := by
    rw [Invocation.line, missingObjectLine, attemptTo_dispatch]
    simp only [List.append_assoc, List.cons_append]
  have hopening : nullPointer ++ ':' :: " Attempt to invoke ".toList ++ i.dispatch.word.toList ++
      " method '".toList = attemptTo i.dispatch.attempt := by
    rw [attemptTo_dispatch, List.append_assoc]
  have hend : ')' :: onNullReference.toList = ")' on a null object reference".toList ++ [] := by
    decide +kernel
  rw [methodInvokedExpr_eq]
  refine first_atBeginning hline rfl ?_
  rw [first_seq, first_dispatch, first_seq, first_text, hopening]
  refine first_typeBefore hi.type (first_methodOfClass hi.method ?_ ?_)
  · rw [hend, first_text]
    have hread : attemptTo i.dispatch.attempt ++ i.type ++ [' '] ++ i.method.className ++ ['.'] ++
        i.method.method ++ ['('] ++ i.method.arguments ++
          ")' on a null object reference".toList = i.line := by
      rw [List.append_nil] at hend
      rw [← hend]
      simp [Invocation.line, missingObjectLine, NamedMethod.text]
    rw [hread]
    rfl
  · intro read rest captures hhead
    exact first_literal_of_head_ne (c := ')') (s := onNullReference.toList) hhead

/-! ### The message as a whole -/

section Message

variable {i : Invocation}

/-- **No other alternative of the standard template reads the message**, if its type does not end in
the word. -/
theorem first_standard_invocation (hi : i.Legible) (hend : ¬EndsInWord "at".toList i.type) :
    standardExpr.first some (.between [] i.line []) =
      some (.between i.line [] (LinePart.captures 13 [] i.parts)) := by
  have hfirst := first_methodInvoked hi
  have htype : ':' ∉ i.type := hi.type.not_mem (by decide) (by decide)
  have hmember : ':' ∉ i.method.text := hi.method.not_mem (by decide) (by decide)
  have hstandard : standardExpr.first some (.between [] i.line []) =
      nullPointerExpr.first some (.between [] i.line []) :=
    first_standard_missingObject i.dispatch.isAttempt hi.type hi.method.frameless hmember hend
  -- what is read from a field or written to it is not invoked
  have hread : (fieldAccessExpr "java.lang.NullPointerException: Attempt to read from field '"
      7).first some (.between [] i.line []) = none := by
    refine first_missingObject_none (v := " Attempt to r".toList) i.dispatch.isAttempt htype hmember
      (by decide +kernel) ?_ ?_
    all_goals cases i.dispatch <;> decide
  have hwrite : (fieldAccessExpr "java.lang.NullPointerException: Attempt to write to field '"
      10).first some (.between [] i.line []) = none := by
    refine first_missingObject_none (v := " Attempt to w".toList) i.dispatch.isAttempt htype hmember
      (by decide +kernel) ?_ ?_
    all_goals cases i.dispatch <;> decide
  rw [hstandard, nullPointerExpr]
  simp only [first_alt, hread, hwrite, hfirst, Option.none_or, Option.some_or]

/-- **The slots of the message are the type, the class, the method and the arguments.** -/
theorem slots?_invocation (hi : i.Legible) (hend : ¬EndsInWord "at".toList i.type) :
    standard.slots? i.line = some (LinePart.slots [] i.parts) := by
  rw [slots?, standard_plan,
    find_of_first isProductive_standardExpr (first_standard_invocation hi hend),
    standard_placeholders]
  rfl

/-- **The message about an invoked method tells its type, its class, the method and its arguments,
and nothing else.  A frame that is written into it takes their place, and nothing else changes.** -/
theorem parse?_format_invocation (hi : i.Legible) (hend : ¬EndsInWord "at".toList i.type) :
    standard.parse? i.line = some i.frame ∧
      ∀ frame, (standard.format false i.line frame).text = (i.withFrame frame).line := by
  have hslots := slots?_invocation hi hend
  rw [← i.line_parts] at hslots ⊢
  refine ⟨?_, fun frame => ?_⟩
  · rw [parse?_line hslots, Invocation.foldl_read_parts hi]
  · rw [format_line hslots, Invocation.map_rewritten_parts, Invocation.line_parts]

end Message

/-- A method of an interface with two arguments, and another one in its place. -/
theorem parse?_format_invocation_interface :
    standard.parse? ("java.lang.NullPointerException: Attempt to invoke interface method " ++
        "'void a.b(int, c.d)' on a null object reference").toList =
      some { StackFrame.unknown with
        className := "a", type := "void", method := "b", arguments := "int, c.d" } ∧
    (standard.format false ("java.lang.NullPointerException: Attempt to invoke interface method " ++
        "'void a.b(int, c.d)' on a null object reference").toList
      { StackFrame.unknown with
        className := "Foo", type := "int[]", method := "bar", arguments := "" }).text =
      ("java.lang.NullPointerException: Attempt to invoke interface method " ++
        "'int[] Foo.bar()' on a null object reference").toList := by
  have hint : IsPath "int".toList := .segment (by decide)
  have hclass : IsPath "c.d".toList := IsPath.dot (s := ['c']) (by decide) (.segment (by decide))
  have htypes : IsTypes "int, c.d".toList := .commaSpace hint (.one hclass)
  have hi : Invocation.Legible ⟨.interface, "void".toList,
      ⟨"a".toList, "b".toList, "int, c.d".toList⟩⟩ :=
    ⟨.segment (by decide), .segment (by decide), by decide, Or.inr htypes⟩
  have hread := parse?_format_invocation hi (not_endsInWord_of_not_suffix (by decide))
  have hline : Invocation.line ⟨.interface, "void".toList,
      ⟨"a".toList, "b".toList, "int, c.d".toList⟩⟩ =
        ("java.lang.NullPointerException: Attempt to invoke interface method " ++
          "'void a.b(int, c.d)' on a null object reference").toList := by
    decide +kernel
  rw [hline] at hread
  exact ⟨hread.1.trans (by decide), (hread.2 _).trans (by decide +kernel)⟩

end Deobfuscation.Template
