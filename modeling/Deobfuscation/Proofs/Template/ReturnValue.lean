import Deobfuscation.Proofs.Template.MissingObject

/-!
# Calls on a missing return value

Where a method is called on the return value of another one and there is none, the message names
both:

    …: Cannot invoke "called" because the return value of "missing" is null

The standard template reads the second method.  It would read any line in place of the first, up to
the last reason that the line gives; but there is only one, for the quotation marks of the line are
known.  The template of called methods reads the first method, and any line in place of the second,
so it does not matter what was written there before.

* `returnValueLine` — the message;
* `first_standard_returnValueLine` — **proved**: no alternative in front of the one for missing
  return values reads the message;
* `first_returnValue`, `first_nullReceiver` — **proved**: how the two alternatives read the message;
* `slots?_returnValueLine`, `calledMethod_slots?` — **proved**: the slots of the message are the
  second method for the one template, and the first method for the other.
-/

namespace Deobfuscation.Template

open Regex Expr
open Text (suffix_of_append_cons)

/-! ### The message -/

/-- The end of the message. -/
def isNull : String := "\" is null"

/-- The message about a call on a missing return value. -/
def returnValueLine (called missing : List Char) : List Char :=
  cannotInvoke.toList ++ called ++ becauseReturnValue.toList ++ missing ++ isNull.toList

/-- The message by its quotation marks. -/
theorem returnValueLine_eq (called missing : List Char) :
    returnValueLine called missing =
      "java.lang.NullPointerException: Cannot invoke ".toList ++ '\x22' :: (called ++ '\x22' ::
        (" because the return value of ".toList ++ '\x22' :: (missing ++ '\x22' ::
          " is null".toList))) := by
  have hopening : cannotInvoke.toList =
      "java.lang.NullPointerException: Cannot invoke ".toList ++ ['\x22'] := by decide
  have hreason : becauseReturnValue.toList =
      '\x22' :: (" because the return value of ".toList ++ ['\x22']) := by decide
  have hend : isNull.toList = '\x22' :: " is null".toList := by decide
  rw [returnValueLine, hopening, hreason, hend]
  simp only [List.append_assoc, List.cons_append, List.nil_append]

/-- **The message has no frame of a stack trace in it.** -/
theorem frameless_returnValueLine {called missing : List Char} (hcalled : Frameless called)
    (hmissing : Frameless missing) : Frameless (returnValueLine called missing) := by
  have hopening : Frameless "java.lang.NullPointerException: Cannot invoke ".toList :=
    frameless_of_not_substring (by decide)
  have hreason : Frameless " because the return value of ".toList :=
    frameless_of_not_substring (by decide)
  have hend : Frameless " is null".toList := frameless_of_not_substring (by decide)
  rw [returnValueLine_eq]
  have hsecond := hmissing.append_mark (d := '\x22') hend (by decide) (by decide)
  have hbehind := hreason.append_mark (d := '\x22') hsecond (by decide) (by decide)
  have hfirst := hcalled.append_mark (d := '\x22') hbehind (by decide) (by decide)
  exact hopening.append_mark hfirst (by decide) (by decide)

/-! ### No other message -/

section Messages

variable {called missing : List Char}

/-- The message by its colon. -/
theorem returnValueLine_eq_nullPointer :
    returnValueLine called missing =
      nullPointerLine (" Cannot invoke ".toList ++ ('\x22' :: (called ++ '\x22' ::
        (" because the return value of ".toList ++ '\x22' :: (missing ++ '\x22' ::
          " is null".toList))))) := by
  have hopening : "java.lang.NullPointerException: Cannot invoke ".toList =
      nullPointer ++ ':' :: " Cannot invoke ".toList := by decide +kernel
  rw [returnValueLine_eq, hopening, nullPointerLine, List.append_assoc, List.cons_append]

/-- **Of the alternatives of the standard template, those in front of the one for missing return
values do not read the message.** -/
theorem first_standard_returnValueLine (hcalled : ':' ∉ called) (hmissing : ':' ∉ missing)
    (hframes : Frameless (returnValueLine called missing)) {r : Attempt}
    (h : returnValueExpr.first some (.between [] (returnValueLine called missing) []) = some r) :
    standardExpr.first some (.between [] (returnValueLine called missing) []) = some r := by
  rw [returnValueLine_eq_nullPointer] at h hframes ⊢
  have hcolon : ':' ∉ " Cannot invoke ".toList ++ ('\x22' :: (called ++ '\x22' ::
      (" because the return value of ".toList ++ '\x22' :: (missing ++ '\x22' ::
        " is null".toList)))) := by
    simp only [List.mem_append, List.mem_cons, not_or]
    exact ⟨by decide, by decide, hcalled, by decide, by decide, by decide, hmissing, by decide,
      by decide⟩
  have hattempt : ∀ {x : Expr}, x.requires ([] ++ ':' :: " Attempt".toList) = true →
      x.first some (.between [] (nullPointerLine _) []) = none := fun hx =>
    first_nullPointer_none hcolon hx (Or.inr (not_prefix_append (by decide) (by decide) _))
  have hread := hattempt (x := fieldAccessExpr
    "java.lang.NullPointerException: Attempt to read from field '" 7) (by decide +kernel)
  have hwrite := hattempt (x := fieldAccessExpr
    "java.lang.NullPointerException: Attempt to write to field '" 10) (by decide +kernel)
  have hinvoked := hattempt (x := methodInvokedExpr) (by decide +kernel)
  rw [first_standard_nullPointer hcolon hframes, nullPointerExpr]
  simp only [first_alt, hread, hwrite, hinvoked, h, Option.none_or, Option.some_or]

end Messages

/-! ### How the message is read -/

variable {called missing : NamedMethod}

/-- Inside of the reason no other one begins. -/
theorem not_prefix_of_inside (hmissing : missing.Legible) {p q : List Char}
    (hsplit : becauseReturnValue.toList ++ missing.text ++ isNull.toList = p ++ q) (hp : p ≠ []) :
    ¬becauseReturnValue.toList <+: q := by
  rintro ⟨u, rfl⟩
  obtain ⟨c, p, rfl⟩ := List.exists_cons_of_ne_nil hp
  obtain ⟨d, s, hclass, hd⟩ := hmissing.className.exists_cons
  have hquote : '\x22' ∉ missing.text := hmissing.not_mem (by decide) (by decide)
  have hreason : becauseReturnValue.toList =
      '\x22' :: (" because the return value of ".toList ++ ['\x22']) := by decide
  have hbehind : p ++ '\x22' :: (" because the return value of ".toList ++ ['\x22'] ++ u) =
      " because the return value of ".toList ++
        '\x22' :: (missing.text ++ '\x22' :: " is null".toList) := by
    rw [hreason, List.cons_append, List.cons_append, List.cons_append] at hsplit
    exact (List.cons.inj hsplit).2.symm.trans (by simp [isNull])
  rcases List.suffix_cons_iff.1 (suffix_of_append_cons hbehind (by decide)) with heq | hlater
  · -- no space follows the third quotation mark
    have hhead := congrArg List.head? (List.cons.inj heq).2
    rw [NamedMethod.text, hclass] at hhead
    have hspace : d = ' ' := (Option.some.inj hhead).symm
    rw [hspace] at hd
    exact absurd hd (by decide)
  · -- behind the fourth there is not enough left
    obtain ⟨before, hbefore⟩ := hlater
    have hlength := (suffix_of_append_cons hbefore hquote).length_le
    have hlonger : " is null".toList.length < " because the return value of ".toList.length := by
      decide
    simp only [List.length_cons, List.length_append] at hlength
    omega

/-- **The second method of the message is captured.** -/
theorem first_returnValue (hcalled : called.Legible) (hmissing : missing.Legible) :
    returnValueExpr.first some (.between [] (returnValueLine called.text missing.text) []) =
      some (.between (returnValueLine called.text missing.text) [] (missing.captures 17
        (cannotInvoke.toList ++ called.text ++ becauseReturnValue.toList))) := by
  have hline : returnValueLine called.text missing.text = cannotInvoke.toList ++
      (called.text ++ (becauseReturnValue.toList ++ missing.text ++ isNull.toList)) := by
    simp [returnValueLine]
  have hnewline : ∀ {m : NamedMethod}, m.Legible → '\n' ∉ m.text :=
    fun hm => hm.not_mem (by decide) (by decide)
  rw [returnValueExpr]
  refine first_atBeginning hline (by decide) ?_
  have hwhole : '\n' ∉ called.text ++
      (becauseReturnValue.toList ++ missing.text ++ isNull.toList) := by
    simp only [List.mem_append, not_or]
    exact ⟨hnewline hcalled, ⟨by decide, hnewline hmissing⟩, by decide⟩
  rw [first_seq]
  refine first_withinLine hwhole ?_ ?_
  · rw [List.append_assoc, first_seq, first_text]
    refine first_methodOfClass hmissing ?_ ?_
    · have hend : ')' :: isNull.toList = ")\" is null".toList ++ [] := by decide
      rw [hend, first_text]
      simp [returnValueLine, NamedMethod.text, isNull]
    · intro read rest captures hhead
      exact first_literal_of_head_ne (c := ')') (s := isNull.toList) hhead
  · intro read p q hsplit hp
    rw [first_seq]
    exact first_literal_of_not_prefix (not_prefix_of_inside hmissing hsplit hp)

/-- **The first method of the message is captured**, whatever stands in place of the second. -/
theorem first_nullReceiver (hcalled : called.Legible) {other : List Char} (hother : '\n' ∉ other) :
    nullReceiverExpr.first some (.between [] (returnValueLine called.text other) []) =
      some (.between (returnValueLine called.text other) []
        (called.captures 1 cannotInvoke.toList)) := by
  have hline : returnValueLine called.text other = cannotInvoke.toList ++
      (called.text ++ (becauseReturnValue.toList ++ (other ++ isNull.toList))) := by
    simp [returnValueLine]
  rw [nullReceiverExpr]
  refine first_atBeginning hline (by decide) (first_methodOfClass hcalled ?_ ?_)
  · have hreason : ')' :: (becauseReturnValue.toList ++ (other ++ isNull.toList)) =
        (")" ++ becauseReturnValue).toList ++ (other ++ isNull.toList) := by
      rw [String.toList_append]
      rfl
    have hwhole : '\n' ∉ other ++ isNull.toList :=
      fun hin => (List.mem_append.1 hin).elim hother fun hend => absurd hend (by decide)
    rw [hreason, first_seq, first_text, first_seq]
    refine first_withinLine hwhole ?_ ?_
    · have hend : isNull.toList = "\" is null".toList ++ [] := by decide
      rw [hend, first_text]
      simp [returnValueLine, NamedMethod.text, isNull]
    · intro read p q hsplit hp
      refine first_literal_of_not_prefix fun hbegins => ?_
      -- the end of the line does not go on inside of itself
      have hlength := congrArg List.length hsplit
      have hle : isNull.toList.length ≤ q.length := hbegins.length_le
      rw [List.length_append] at hlength
      have hpos := List.length_pos_iff.2 hp
      omega
  · intro read rest captures hhead
    rw [first_seq]
    exact first_literal_of_head_ne (c := ')') (s := becauseReturnValue.toList) hhead

/-! ### The slots of the message -/

/-- **For the standard template the slots of the message are the second method.** -/
theorem slots?_returnValueLine (hcalled : called.Legible) (hmissing : missing.Legible) :
    standard.slots? (returnValueLine called.text missing.text) =
      some (missing.slots (cannotInvoke.toList ++ called.text ++ becauseReturnValue.toList)) := by
  have hcolon : ∀ {m : NamedMethod}, m.Legible → ':' ∉ m.text :=
    fun hm => hm.not_mem (by decide) (by decide)
  have hfind := first_standard_returnValueLine (hcolon hcalled) (hcolon hmissing)
    (frameless_returnValueLine hcalled.frameless hmissing.frameless)
    (first_returnValue hcalled hmissing)
  rw [slots?, standard_plan, find_of_first isProductive_standardExpr hfind, standard_placeholders]
  rfl

/-- **For the template of called methods the slots of the message are the first method.** -/
theorem calledMethod_slots? (hcalled : called.Legible) {other : List Char}
    (hother : '\n' ∉ other) :
    calledMethod.slots? (returnValueLine called.text other) =
      some (called.slots cannotInvoke.toList) := by
  have hfind : calledMethodExpr.first some (.between [] (returnValueLine called.text other) []) =
      some (.between (returnValueLine called.text other) []
        (called.captures 1 cannotInvoke.toList)) := by
    rw [calledMethodExpr, first_seq, first_assert rfl, first_nullReceiver hcalled hother]
  rw [slots?, calledMethod_plan, find_of_first isProductive_calledMethodExpr hfind,
    calledMethod_placeholders]
  rfl

end Deobfuscation.Template
