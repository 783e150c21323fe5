import Deobfuscation.Proofs.Template.Frameless

/-!
# Causes

The cause of an exception is logged as the exception itself would be, behind two words:

    Caused by: class
    Caused by: class: message

The last alternative of the standard template prefers a class behind a colon and blanks to one at
the beginning of the line, and of several colons it takes the first.  That is the one behind the two
words, where a class stands and then the end of the line or a colon.  So the class of the cause is
found whatever the message is: it may hold colons and even be a class.

* `IsRemark` — a message without the telling words, in which there may be colons;
* `causeLine` — the line of a cause;
* `phraseless_causeLine`, `phraseless_causeLine_remark` — **proved**: the line has none of the
  phrases of the other alternatives;
* `slots?_causeLine` — **proved**: its slot is the class of the cause.
-/

namespace Deobfuscation.Template

open Regex Expr
open Text (infix_or_infix_of_append_cons)

/-- A message in one line, without quotation marks and without the words by which stack frames and
failed casts are known. -/
structure IsRemark (s : List Char) : Prop where
  chars : ∀ c ∈ s, c ∉ ['\n', '\'', '\x22']
  no_at : ¬HasWord "at".toList s
  no_cast : ¬HasWord "cast".toList s

/-- A text is a remark if it passes these checks. -/
theorem isRemark_of_checks {s : List Char}
    (hchars : (s.all fun c => decide (c ∉ ['\n', '\'', '\x22'])) = true)
    (hat : ¬"at".toList <:+: s) (hcast : ¬"cast".toList <:+: s) : IsRemark s where
  chars c hc := of_decide_eq_true (List.all_eq_true.1 hchars c hc)
  no_at := not_hasWord_of_not_substring hat
  no_cast := not_hasWord_of_not_substring hcast

/-- The words in front of a cause. -/
def causedBy : List Char := "Caused by".toList

/-- The line of a cause, which is logged as an exception is. -/
def causeLine (cause : List Char) : List Char := causedBy ++ ':' :: ' ' :: cause

section Line

variable {className message : List Char}

/-! ### No other phrase -/

/-- A phrase of two spaces at least does not stand around a class. -/
theorem not_infix_space_path (hclass : IsPath className) {t : List Char} (hspace : ' ' ∈ t) :
    ¬ ' ' :: t <:+: ' ' :: className := by
  have hnone : ' ' ∉ className := hclass.not_mem (by decide) (by decide)
  intro h
  rcases List.infix_cons_iff.1 h with hfront | hinside
  · exact hnone ((List.cons_prefix_cons.1 hfront).2.subset hspace)
  · exact hnone (hinside.subset List.mem_cons_self)

/-- A phrase of two spaces at least is not found in the line of a cause that has no message. -/
theorem not_infix_causeLine (hclass : IsPath className) {t : List Char} (hspace : ' ' ∈ t)
    (hcolon : ':' ∉ ' ' :: t) (hwords : ¬ ' ' :: t <:+: causedBy) :
    ¬ ' ' :: t <:+: causeLine className := by
  intro h
  rcases infix_or_infix_of_append_cons h hcolon with hfront | hbehind
  · exact hwords hfront
  · exact not_infix_space_path hclass hspace hbehind

/-- In front of a message it stands in the message. -/
theorem infix_remark (hclass : IsPath className) {t : List Char} (hspace : ' ' ∈ t)
    (hcolon : ':' ∉ ' ' :: t) (hwords : ¬ ' ' :: t <:+: causedBy)
    (h : ' ' :: t <:+: causeLine (exceptionLine className message)) : t <:+: message := by
  have hline : causeLine (exceptionLine className message) =
      causeLine className ++ ':' :: ' ' :: message := by
    simp [causeLine, exceptionLine]
  rw [hline] at h
  rcases infix_or_infix_of_append_cons h hcolon with hfront | hbehind
  · exact absurd hfront (not_infix_causeLine hclass hspace hcolon hwords)
  · rcases List.infix_cons_iff.1 hbehind with hbegins | hinside
    · exact (List.cons_prefix_cons.1 hbegins).2.isInfix
    · exact (List.suffix_cons ' ' t).isInfix.trans hinside

theorem frameless_causedBy : Frameless causedBy := frameless_of_not_substring (by decide)

/-- No frame begins in the line of a cause, if none does behind its words. -/
theorem Frameless.causeLine {cause : List Char} (h : Frameless cause) :
    Frameless (causeLine cause) :=
  frameless_causedBy.append_mark h.cons_space (by decide) (by decide)

/-- **The line of a cause has no phrases.** -/
theorem phraseless_causeLine (hclass : IsPath className) : Phraseless (causeLine className) where
  quote := by
    simp only [causeLine, List.mem_append, List.mem_cons, not_or]
    exact ⟨by decide, by decide, by decide, hclass.not_mem (by decide) (by decide)⟩
  cast := not_infix_causeLine hclass (by decide) (by decide) (by decide)
  field := not_infix_causeLine hclass (by decide) (by decide) (by decide)
  method := not_infix_causeLine hclass (by decide) (by decide) (by decide)
  at_inside := hclass.frameless.causeLine

/-- **The line of a cause with a message has no phrases**, if the message has none of their
words. -/
theorem phraseless_causeLine_remark (hclass : IsPath className) (hmessage : IsRemark message) :
    Phraseless (causeLine (exceptionLine className message)) where
  quote := by
    simp only [causeLine, exceptionLine, List.mem_append, List.mem_cons, not_or]
    exact ⟨by decide, by decide, by decide, hclass.not_mem (by decide) (by decide), by decide,
      by decide, fun hmem => hmessage.chars _ hmem (by decide)⟩
  cast := fun h => hmessage.no_cast
    (hasWord_cast_of_substring (infix_remark hclass (by decide) (by decide) (by decide) h))
  field := fun h => hmessage.chars '\''
    ((infix_remark hclass (by decide) (by decide) (by decide) h).subset (by decide)) (by decide)
  method := fun h => hmessage.chars '\''
    ((infix_remark hclass (by decide) (by decide) (by decide) h).subset (by decide)) (by decide)
  at_inside := by
    have hremark := frameless_of_not_hasWord hmessage.no_at
    have hcause : Frameless (exceptionLine className message) :=
      hclass.frameless.append_mark hremark.cons_space (by decide) (by decide)
    exact hcause.causeLine

/-! ### The slot of the line -/

/-- A colon and a remark may stand behind a class. -/
theorem IsRemark.isTail (h : IsRemark message) : IsTail (':' :: ' ' :: message) := by
  refine Or.inr ⟨' ' :: message, rfl, ?_⟩
  rw [List.mem_cons, not_or]
  exact ⟨by decide, fun hmem => h.chars _ hmem (by decide)⟩

/-- **The slot of a cause is its class**, whatever may stand behind it. -/
theorem slots?_causeLine {tail : List Char} (hclass : IsPath className) (htail : IsTail tail)
    (hphrases : Phraseless (causeLine (className ++ tail))) :
    standard.slots? (causeLine (className ++ tail)) =
      some [⟨.dottedClass, (causedBy ++ [':', ' ']).length,
        (causedBy ++ [':', ' '] ++ className).length⟩] := by
  have hchecks : (causedBy.all fun c => decide (c ∉ ['\n', ':', '\x22'])) = true := by decide
  have hwords : ∀ c ∈ causedBy, c ∉ ['\n', ':', '\x22'] :=
    fun c hc => of_decide_eq_true (List.all_eq_true.1 hchecks c hc)
  exact hphrases.slots? (first_exception_behind hwords hclass htail)

end Line

end Deobfuscation.Template
