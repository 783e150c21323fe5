import Deobfuscation.Proofs.Deobfuscator.ExceptionLine
import Deobfuscation.Proofs.Template.CauseLine

/-!
# Deobfuscating causes

The line of a cause tells a class and no member, as the line of an exception does, but its class is
found whatever the message is.

* `line_causeLine_tail` — **proved**: what is shown for a cause and what may stand behind it;
* `line_causeLine` — **proved**: a cause is shown with the plain name of its class.
-/

namespace Deobfuscation.Deobfuscator

open Template (IsPath IsRemark IsTail Phraseless causeLine exceptionLine)

section Causes

variable {className tail : List Char} {source : ByteSource} {d : Deobfuscator}

/-- In a line of a cause without other phrases the class is replaced, whatever stands behind it. -/
theorem line_causeLine_tail (hd : ofSource source ⟨false, false, none⟩ = .ok d)
    (hlacks : d.table.Lacks '\x22') (hclass : IsPath className) (htail : IsTail tail)
    (hphrases : Phraseless (causeLine (className ++ tail))) :
    d.line (causeLine (className ++ tail)) =
      [causeLine ((d.table.plainClass (String.ofList className)).toList ++ tail)] := by
  obtain ⟨htemplate, hall, hnames⟩ := of_ofSource_default hd
  have hquote := hphrases.quote
  have hslots := Template.slots?_causeLine hclass htail hphrases
  have hline : ∀ className, causeLine (className ++ tail) =
      Template.causedBy ++ [':', ' '] ++ className ++ tail := by
    intro className
    simp [causeLine]
  rw [← htemplate, hline] at hslots
  rw [hline] at hquote
  rw [hline, hline]
  exact line_of_class hclass.ne_nil hslots hnames hlacks hall hquote

/-- **A cause is shown with the plain name of its class**, alone and with any message that has none
of the telling words. -/
theorem line_causeLine (hd : ofSource source ⟨false, false, none⟩ = .ok d)
    (hlacks : d.table.Lacks '\x22') (hclass : IsPath className) :
    d.line (causeLine className) =
        [causeLine (d.table.plainClass (String.ofList className)).toList] ∧
      ∀ message, IsRemark message → d.line (causeLine (exceptionLine className message)) =
        [causeLine (exceptionLine (d.table.plainClass (String.ofList className)).toList
          message)] := by
  constructor
  · have hphrases := Template.phraseless_causeLine hclass
    rw [← List.append_nil className] at hphrases
    have hline := line_causeLine_tail hd hlacks hclass (Or.inl rfl) hphrases
    rwa [List.append_nil, List.append_nil] at hline
  · intro message hmessage
    exact line_causeLine_tail hd hlacks hclass hmessage.isTail
      (Template.phraseless_causeLine_remark hclass hmessage)

end Causes

/-- A message that is a class and a message itself. -/
theorem line_causeLine_nested :
    ∃ d, ofSource oneClassMap ⟨false, false, none⟩ = .ok d ∧ d.table.Lacks '\x22' ∧
      IsPath "a.c".toList ∧ IsRemark "a.c: it is broken".toList ∧
      d.line "Caused by: a.c".toList = ["Caused by: com.example.BarException".toList] ∧
      d.line "Caused by: a.c: a.c: it is broken".toList =
        ["Caused by: com.example.BarException: a.c: it is broken".toList] := by
  have hmessage : IsRemark "a.c: it is broken".toList :=
    Template.isRemark_of_checks (by decide) (by decide) (by decide)
  have hplain : oneClassTable.plainClass (String.ofList "a.c".toList) =
      "com.example.BarException" := by
    decide +kernel
  obtain ⟨halone, hremark⟩ :=
    line_causeLine ofSource_oneClassMap lacks_oneClassTable isPath_oneClass
  rw [hplain] at halone hremark
  exact ⟨_, ofSource_oneClassMap, lacks_oneClassTable, isPath_oneClass, hmessage, halone,
    hremark _ hmessage⟩

end Deobfuscation.Deobfuscator
