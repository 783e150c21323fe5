import Deobfuscation.Proofs.Template.Filling
import Deobfuscation.Proofs.Template.Names
import Deobfuscation.Proofs.Text.Cut

/-!
# Exceptions and their messages

An exception is logged as its class, a colon and a message:

    class: message

If the message has none of the phrases by which the other alternatives of the standard template
know a line, only the last of them reads it.  That one prefers a class at the end, behind a colon
and blanks, to a class in front.  So a message that has the form of a class is taken for the class,
and only where the message has not is the class found in front of the colon.

* `HasWord`, `IsMessage` — words of a text, and messages without the telling ones;
* `Phraseless` — a line without the phrases of the other alternatives;
* `Phraseless.first_standard` — **proved**: only the last alternative reads such a line;
* `phraseless_exceptionLine` — **proved**: the line of an exception is such a line;
* `first_exception_behind`, `first_exception_front` — **proved**: how the last alternative reads a
  line with a class at its end, and one with a class in front;
* `slots?_exceptionLine_path`, `slots?_exceptionLine` — **proved**: the slot of the line of an
  exception is the message or the class.
-/

namespace Deobfuscation.Template

open Regex Expr
open Text (suffix_of_append_cons suffix_of_suffix_append_cons)

/-! ### Words and messages -/

/-- A word stands in a text, with no character of a word on either side. -/
def HasWord (word s : List Char) : Prop :=
  ∃ before after, s = before ++ word ++ after ∧ before.getLast?.any Text.isWord = false ∧
    after.head?.any Text.isWord = false

/-- A text has no word that is no part of it. -/
theorem not_hasWord_of_not_substring {word s : List Char} (h : ¬word <:+: s) : ¬HasWord word s := by
  rintro ⟨before, after, hsplit, -, -⟩
  exact h ⟨before, after, hsplit.symm⟩

/-- The phrase by which a failed cast is known has the word in it. -/
theorem hasWord_cast_of_substring {s : List Char} (h : "cannot be cast to ".toList <:+: s) :
    HasWord "cast".toList s := by
  obtain ⟨before, after, hsplit⟩ :
      "cannot be ".toList ++ "cast".toList ++ " to ".toList <:+: s := h
  refine ⟨before ++ "cannot be ".toList, " to ".toList ++ after, ?_, ?_, ?_⟩
  · rw [← hsplit]
    simp only [List.append_assoc]
  · rw [List.getLast?_append]
    show Text.isWord ' ' = false
    decide
  · show Text.isWord ' ' = false
    decide

/-- A message in one line, without quotation marks and colons and without the words by which
stack frames and failed casts are known. -/
structure IsMessage (s : List Char) : Prop where
  chars : ∀ c ∈ s, c ∉ ['\n', '\'', ':', '\x22']
  head : ∀ c, s.head? = some c → Text.isBlank c = false
  no_at : ¬HasWord "at".toList s
  no_cast : ¬HasWord "cast".toList s

/-- A text is a message if it passes these checks. -/
theorem isMessage_of_checks {s : List Char}
    (hchars : (s.all fun c => decide (c ∉ ['\n', '\'', ':', '\x22'])) = true)
    (hhead : s.head?.all (fun c => !Text.isBlank c) = true) (hat : ¬"at".toList <:+: s)
    (hcast : ¬"cast".toList <:+: s) : IsMessage s where
  chars c hc := of_decide_eq_true (List.all_eq_true.1 hchars c hc)
  head c hc := by simpa [hc] using hhead
  no_at := not_hasWord_of_not_substring hat
  no_cast := not_hasWord_of_not_substring hcast

/-- No blank belongs to a word. -/
theorem isWord_of_isBlank {c : Char} (h : Text.isBlank c = true) : Text.isWord c = false := by
  -- the blanks are few, so they are tried, each by its distance from the beginning of its range
  have hall : ∀ range ∈ Text.blankRanges, ∀ k < range.2 + 1 - range.1,
      Text.isWord (Char.ofNat (range.1 + k)) = false := by
    decide +kernel
  rw [Text.isBlank, Text.inRanges, Unicode.Ranges.contains, List.any_eq_true] at h
  obtain ⟨range, hmem, hin⟩ := h
  rw [Bool.and_eq_true, decide_eq_true_eq, decide_eq_true_eq] at hin
  obtain ⟨hfirst, hlast⟩ := hin
  have hc := hall range hmem (c.toNat - range.1) (by omega)
  rwa [Nat.add_sub_cancel' hfirst, Char.ofNat_toNat] at hc

/-! ### Lines without phrases -/

/-- A line has none of the phrases by which the alternatives of the standard template, but for the
last, know a line. -/
structure Phraseless (line : List Char) : Prop where
  quote : '\x22' ∉ line
  cast : ¬" cannot be cast to ".toList <:+: line
  field : ¬" field '".toList <:+: line
  method : ¬" method '".toList <:+: line
  /-- What ends in `at` before a blank is a longer word. -/
  at_inside : ∀ before c after, line = before ++ "at".toList ++ c :: after →
    Text.isBlank c = true → before.getLast?.any Text.isWord = true

section Alternatives

variable {line : List Char}

theorem exists_cons_of_not_stops {s : CharSet} {rest : List Char} (h : ¬Stops s rest) :
    ∃ c more, rest = c :: more ∧ s.contains c = true := by
  simp only [Stops, not_forall, Bool.not_eq_false] at h
  obtain ⟨c, hhead, hc⟩ := h
  exact ⟨c, rest.tail, List.eq_cons_of_mem_head? hhead, hc⟩

/-- **Without the word `at` in front of a blank there is no frame of a stack trace.** -/
theorem first_stackTrace_none (hat : ∀ before c after, line = before ++ "at".toList ++ c :: after →
    Text.isBlank c = true → before.getLast?.any Text.isWord = true) :
    stackTraceExpr.first some (.between [] line []) = none := by
  rw [stackTraceExpr, afterWords, first_seq]
  refine first_skip_none line rfl fun p q hsplit => ?_
  rw [hsplit, Attempt.eat_between, List.nil_append, first_seq, wordBoundary]
  by_cases hprefix : "at".toList <+: q
  · obtain ⟨rest, rfl⟩ := hprefix
    by_cases hstop : Stops .blank rest
    · refine first_assert_none ?_
      rw [first_seq, first_text, first_seq]
      exact first_run_of_stops hstop
    · -- the word goes on to the left, so it does not begin here
      obtain ⟨c, after, rfl, hblank⟩ := exists_cons_of_not_stops hstop
      have hinside := hat p c after (by rw [hsplit, List.append_assoc]) hblank
      refine first_assert_of_not_holds ?_
      show WordPlace.boundary.holds (p.getLast?.any Text.isWord) _ = false
      rw [hinside]
      rfl
  · refine first_assert_none ?_
    rw [first_seq]
    exact first_literal_of_not_prefix hprefix

/-- **Of the alternatives of the standard template only the last reads a line without phrases.** -/
theorem Phraseless.first_standard (h : Phraseless line) :
    standardExpr.first some (.between [] line []) =
      exceptionExpr.first some (.between [] line []) := by
  have hrequires : ∀ {t : List Char} {x : Expr}, x.requires t = true → ¬t <:+: line →
      x.first some (.between [] line []) = none :=
    fun hx ht => first_eq_none_of_requires hx ht
  have hquote : ¬['\x22'] <:+: line := mt (List.singleton_infix_iff _ _).1 h.quote
  have hcastFrom := hrequires (x := castFromExpr) (by decide +kernel) h.cast
  have hcastTo := hrequires (x := castToExpr) (by decide +kernel) h.cast
  have hread := hrequires (x := fieldAccessExpr
    "java.lang.NullPointerException: Attempt to read from field '" 7) (by decide +kernel) h.field
  have hwrite := hrequires (x := fieldAccessExpr
    "java.lang.NullPointerException: Attempt to write to field '" 10) (by decide +kernel) h.field
  have hinvoked := hrequires (x := methodInvokedExpr) (by decide +kernel) h.method
  have hreturned := hrequires (x := returnValueExpr) (by decide +kernel) hquote
  have hmissing := hrequires (x := missingFieldExpr) (by decide +kernel) hquote
  rw [standardExpr, first_seq, first_assert rfl, messageExpr]
  simp only [first_alt, first_stackTrace_none h.at_inside, hcastFrom, hcastTo, hread, hwrite,
    hinvoked, hreturned, hmissing, Option.none_or]

end Alternatives

/-! ### The line of an exception -/

/-- The line of an exception with a message. -/
def exceptionLine (className message : List Char) : List Char :=
  className ++ ':' :: ' ' :: message

section Line

variable {className message : List Char}

/-- A phrase that begins with a space continues in the message. -/
theorem infix_message {t : List Char} (hclass : IsPath className)
    (h : ' ' :: t <:+: exceptionLine className message) : t <:+: message := by
  obtain ⟨before, after, h⟩ := h
  have hspace : ' ' ∉ className ++ [':'] := by
    rw [List.mem_append, not_or]
    exact ⟨hclass.not_mem (by decide) (by decide), by decide⟩
  have hline : before ++ ' ' :: (t ++ after) = (className ++ [':']) ++ ' ' :: message := by
    simpa [exceptionLine] using h
  have hsuffix : t ++ after <:+ message := by
    rcases List.suffix_cons_iff.1 (suffix_of_append_cons hline hspace) with heq | hlater
    · rw [(List.cons.inj heq).2]
    · exact (List.suffix_cons ' ' _).trans hlater
  exact (List.prefix_append t after).isInfix.trans hsuffix.isInfix

/-- A word in front of a blank stands in the message. -/
theorem word_in_message {before word after : List Char} {c : Char} (hclass : IsPath className)
    (hne : word ≠ []) (hcolon : ':' ∉ word) (hspace : ' ' ∉ word) (hblank : Text.isBlank c = true)
    (hline : exceptionLine className message = before ++ word ++ c :: after) :
    ∃ start, before = className ++ ':' :: ' ' :: start ∧ message = start ++ word ++ c :: after := by
  -- there is no blank up to the colon
  have hfront : c ∉ className ++ [':'] := by
    intro hmem
    rcases List.mem_append.1 hmem with hmem | hmem
    · have hnot : isSegmentChar c = false := by
        rw [isSegmentChar, hblank, Bool.true_or, Bool.not_true]
      refine hclass.not_mem hnot ?_ hmem
      rintro rfl
      revert hblank
      decide
    · rw [List.mem_singleton.1 hmem] at hblank
      revert hblank
      decide
  have hsplit : before ++ word ++ c :: after = (className ++ [':']) ++ ' ' :: message := by
    rw [← hline, exceptionLine, List.append_assoc]
    rfl
  obtain ⟨inside, hinside⟩ := suffix_of_append_cons hsplit hfront
  have hword : before ++ word = className ++ ':' :: inside := by
    rw [← hinside, ← List.append_assoc, List.append_cancel_right_eq, List.append_assoc] at hsplit
    exact hsplit
  have hbehind : word <:+ inside :=
    suffix_of_suffix_append_cons (hword ▸ List.suffix_append before word) hcolon
  cases inside with
  | nil => exact absurd (List.suffix_nil.1 hbehind) hne
  | cons d inside =>
    -- the blank is not the one behind the colon, but stands in the message
    obtain ⟨rfl, rfl⟩ := List.cons.inj hinside
    obtain ⟨start, rfl⟩ := suffix_of_suffix_append_cons (l := []) hbehind hspace
    refine ⟨start, ?_, rfl⟩
    have hall : before ++ word = (className ++ ':' :: ' ' :: start) ++ word := by
      rw [hword]
      simp
    exact List.append_cancel_right hall

/-- **The line of an exception has no phrases**, if its message has none of their words. -/
theorem phraseless_exceptionLine (hclass : IsPath className) (hmessage : IsMessage message) :
    Phraseless (exceptionLine className message) where
  quote := by
    rw [exceptionLine, List.mem_append, List.mem_cons, List.mem_cons, not_or, not_or, not_or]
    exact ⟨hclass.not_mem (by decide) (by decide), by decide, by decide,
      fun hmem => hmessage.chars _ hmem (by decide)⟩
  cast := fun h => hmessage.no_cast (hasWord_cast_of_substring (infix_message hclass h))
  field := fun h => hmessage.chars '\'' ((infix_message hclass h).subset (by decide)) (by decide)
  method := fun h => hmessage.chars '\'' ((infix_message hclass h).subset (by decide)) (by decide)
  at_inside := by
    intro before c after hline hblank
    by_contra hbefore
    rw [Bool.not_eq_true] at hbefore
    obtain ⟨start, rfl, hmessageEq⟩ :=
      word_in_message hclass (by decide) (by decide) (by decide) hblank hline
    -- what is no part of a word in front of it in the line is none in the message
    have hstart : start.getLast?.any Text.isWord = false := by
      cases hlast : start.getLast? with
      | none => rfl
      | some last => simpa [List.getLast?_append, List.getLast?_cons, hlast] using hbefore
    exact hmessage.no_at ⟨start, c :: after, hmessageEq, hstart, isWord_of_isBlank hblank⟩

end Line

/-! ### How the last alternative reads -/

/-- What may stand behind the class at the beginning or the end of a line: nothing, or a colon and
anything. -/
def IsTail (tail : List Char) : Prop := tail = [] ∨ ∃ s, tail = ':' :: s ∧ '\n' ∉ s

/-- The class and what may stand behind it. -/
def classToEndExpr : Expr :=
  seq (.group 22 classExpr)
    (seq (optionalExpr (seq (char ':') (repeatedExpr (set lineSet)))) (assert .textEnd))

/-- The characters that end the words in front of a class. -/
def leadEndSet : CharSet := .union (.only ':') (.only '\x22')

/-- The words in front of a class. -/
def leadExpr : Expr :=
  seq (rounds 0 none false (set lineSet)) (seq (set leadEndSet) (severalExpr (set .blank)))

theorem exceptionExpr_eq : exceptionExpr = seq (optionalExpr leadExpr) classToEndExpr := rfl

section Reading

variable {read path tail : List Char} {captures : List Capture}

theorem contains_leadEndSet {c : Char} : leadEndSet.contains c = true ↔ c = ':' ∨ c = '\x22' := by
  rw [leadEndSet, CharSet.contains, Bool.or_eq_true, CharSet.contains_only, CharSet.contains_only]

theorem contains_space : ∀ c ∈ [' '], CharSet.blank.contains c = true :=
  List.forall_mem_singleton.2 (by decide)

/-- A tail is read up to the end of the line. -/
theorem first_tail (htail : IsTail tail) :
    (seq (optionalExpr (seq (char ':') (repeatedExpr (set lineSet)))) (assert .textEnd)).first some
      (.between read tail captures) = some (.between (read ++ tail) [] captures) := by
  have hend : ∀ read : List Char, (assert .textEnd).first some (.between read [] captures) =
      some (.between read [] captures) := fun read => first_assert rfl
  rw [first_seq, optionalExpr]
  rcases htail with rfl | ⟨s, rfl, hs⟩
  · rw [first_optional_none, List.append_nil, hend]
    rw [first_seq]
    exact first_char_of_head_ne (by simp)
  · refine first_optional_some ?_
    rw [first_seq, first_char, repeatedExpr]
    have hrest : (Attempt.between (read ++ [':']) s captures).cursor.rest = s ++ [] := by simp
    refine first_span hrest (fun c hc => contains_lineSet.2 fun heq => hs (heq ▸ hc))
      (stops_nil _) ?_
    rw [Attempt.eat_rest_between, hend, List.append_assoc]
    rfl

/-- A class is captured and its tail is read. -/
theorem first_classToEnd (hpath : IsPath path) (htail : IsTail tail) :
    classToEndExpr.first some (.between read (path ++ tail) captures) =
      some (.between (read ++ path ++ tail) []
        (⟨22, read.length, (read ++ path).length⟩ :: captures)) := by
  have hhead : ∀ c, tail.head? = some c → c = ':' := by
    rcases htail with rfl | ⟨s, rfl, -⟩
    · simp
    · simp
  have hstop : Stops segmentSet tail := by
    intro c hc
    rw [hhead c hc, contains_segmentSet]
    decide
  have hdot : tail.head? ≠ some '.' := by
    intro hc
    exact absurd (hhead '.' hc) (by decide)
  rw [classToEndExpr, first_seq, first_group]
  refine first_path hpath hstop hdot ?_
  show (seq _ _).first some ((Attempt.between (read ++ path) tail captures).capture 22 read.length)
    = _
  rw [Attempt.capture_between]
  exact first_tail htail

/-- **Nothing is read where only a whole path would do and there is none.** -/
theorem first_classToEnd_none {rest : List Char} (hrest : ¬IsPath rest) (hcolon : ':' ∉ rest) :
    classToEndExpr.first some (.between read rest captures) = none := by
  rw [classToEndExpr, first_seq, first_group]
  refine first_eq_none _ fun b hb => ?_
  -- what is read is a path, so it is not all there is
  obtain ⟨text, htext, hsplit⟩ := reads_ways classExpr _ b hb
  have hpath := isPath_of_mem_language htext
  rw [Attempt.rest_between] at hsplit
  cases hmore : b.cursor.rest with
  | nil =>
    rw [hmore, List.append_nil] at hsplit
    exact absurd (hsplit ▸ hpath) hrest
  | cons c more =>
    have hc : c ≠ ':' := by
      rintro rfl
      exact hcolon (by simp [hsplit, hmore])
    rw [first_seq, optionalExpr, first_optional_none]
    · refine first_assert_of_not_holds ?_
      show (b.cursor.rest.head?).isNone = false
      rw [hmore]
      rfl
    · rw [first_seq]
      refine first_literal_of_not_prefix fun hprefix => ?_
      obtain ⟨t, ht⟩ := hprefix
      rw [show (b.capture 22 _).cursor.rest = c :: more from hmore] at ht
      exact hc (List.cons.inj ht).1.symm

/-- Where words end in a colon and a space, and a class follows, the class is captured. -/
theorem first_exception_behind {opening : List Char}
    (hopening : ∀ c ∈ opening, c ∉ ['\n', ':', '\x22']) (hpath : IsPath path)
    (htail : IsTail tail) :
    exceptionExpr.first some (.between [] (opening ++ ':' :: ' ' :: (path ++ tail)) []) =
      some (.between (opening ++ ':' :: ' ' :: (path ++ tail)) []
        [⟨22, (opening ++ [':', ' ']).length, (opening ++ [':', ' '] ++ path).length⟩]) := by
  have hline : ∀ c ∈ opening, lineSet.contains c = true :=
    fun c hc => contains_lineSet.2 fun heq => hopening c hc (by simp [heq])
  rw [exceptionExpr_eq, first_seq, optionalExpr]
  refine first_optional_some ?_
  rw [leadExpr, first_seq]
  refine first_skip hline rfl ?_ ?_
  · intro p c q hsplit
    -- inside of the words there is neither a colon nor a quotation mark
    have hc := hopening c (by simp [hsplit])
    rw [hsplit, List.append_assoc, Attempt.eat_between, first_seq]
    refine first_set_of_stops fun d hd => ?_
    rw [Attempt.rest_between, List.cons_append, List.head?_cons, Option.some.injEq] at hd
    refine Bool.eq_false_iff.2 fun hcontains => hc ?_
    rcases contains_leadEndSet.1 (hd ▸ hcontains) with rfl | rfl
    · decide
    · decide
  · rw [Attempt.eat_between, List.nil_append, first_seq]
    have hcolon : leadEndSet.contains ':' = true := contains_leadEndSet.2 (Or.inl rfl)
    rw [first_set rfl hcolon, Attempt.eat_char_between, severalExpr]
    have hrest : (Attempt.between (opening ++ [':']) (' ' :: (path ++ tail)) []).cursor.rest =
        [' '] ++ (path ++ tail) := rfl
    refine first_run hrest (by simp) contains_space (hpath.stops_blank tail) ?_
    rw [Attempt.eat_char_between, first_classToEnd hpath htail]
    simp

/-- **Where no class follows the only colon, the class in front is captured.** -/
theorem first_exception_front {message : List Char} (hpath : IsPath path)
    (hnot : ¬IsPath message) (hmessage : ∀ c ∈ message, c ∉ ['\n', ':', '\x22'])
    (hhead : ∀ c, message.head? = some c → Text.isBlank c = false) :
    exceptionExpr.first some (.between [] (path ++ ':' :: ' ' :: message) []) =
      some (.between (path ++ ':' :: ' ' :: message) [] [⟨22, 0, path.length⟩]) := by
  have hcolon : ':' ∉ message := fun hmem => hmessage _ hmem (by decide)
  have hlead : leadExpr.first (classToEndExpr.first some)
      (.between [] (path ++ ':' :: ' ' :: message) []) = none := by
    rw [leadExpr, first_seq]
    refine first_skip_none (path ++ ':' :: ' ' :: message) rfl fun p q hsplit => ?_
    rw [hsplit, Attempt.eat_between, List.nil_append, first_seq]
    by_cases hstop : Stops leadEndSet q
    · exact first_set_of_stops hstop
    · obtain ⟨c, rest, rfl, hc⟩ := exists_cons_of_not_stops hstop
      have hend : c = ':' ∨ c = '\x22' := contains_leadEndSet.1 hc
      -- it is the colon behind the path
      have hfront : c ∉ path := by
        rcases hend with rfl | rfl
        · exact hpath.not_mem (by decide) (by decide)
        · exact hpath.not_mem (by decide) (by decide)
      have hbehind : c ∉ ' ' :: message := by
        rw [List.mem_cons, not_or]
        rcases hend with rfl | rfl
        · exact ⟨by decide, hcolon⟩
        · exact ⟨by decide, fun hmem => hmessage _ hmem (by decide)⟩
      have hrest : rest = ' ' :: message := by
        rcases List.suffix_cons_iff.1 (suffix_of_append_cons hsplit.symm hfront) with heq | hlater
        · exact (List.cons.inj heq).2
        · exact absurd (hlater.subset List.mem_cons_self) hbehind
      rw [first_set rfl hc, Attempt.eat_char_between, severalExpr, hrest]
      have hspace : (Attempt.between (p ++ [c]) (' ' :: message) []).cursor.rest =
          [' '] ++ message := rfl
      refine first_run_none hspace contains_space hhead fun run more hrun hne => ?_
      obtain ⟨d, run, rfl⟩ := List.exists_cons_of_ne_nil hne
      obtain ⟨rfl, hnil⟩ := List.cons.inj hrun
      obtain ⟨rfl, -⟩ := List.append_eq_nil_iff.1 hnil.symm
      rw [Attempt.eat_char_between]
      exact first_classToEnd_none hnot hcolon
  rw [exceptionExpr_eq, first_seq, optionalExpr, first_optional_none hlead]
  have htail : IsTail (':' :: ' ' :: message) := by
    refine Or.inr ⟨' ' :: message, rfl, ?_⟩
    rw [List.mem_cons, not_or]
    exact ⟨by decide, fun hmem => hmessage _ hmem (by decide)⟩
  exact first_classToEnd hpath htail

end Reading

/-! ### The slot of the line -/

/-- Where the last alternative captures a class, the class is the only slot. -/
theorem Phraseless.slots? {line : List Char} (h : Phraseless line) {span : Span}
    (hfirst : exceptionExpr.first some (.between [] line []) =
      some (.between line [] [⟨22, span⟩])) :
    standard.slots? line = some [⟨.dottedClass, span⟩] := by
  have hfind : standardExpr.first some (.between [] line []) =
      some (.between line [] [⟨22, span⟩]) := h.first_standard.trans hfirst
  rw [Template.slots?, standard_plan, find_of_first isProductive_standardExpr hfind,
    standard_placeholders]
  rfl

section Slot

variable {className message : List Char}

/-- **A message that has the form of a class is taken for the class.** -/
theorem slots?_exceptionLine_path (hclass : IsPath className) (hmessage : IsMessage message)
    (hpath : IsPath message) :
    standard.slots? (exceptionLine className message) =
      some [⟨.dottedClass, (className ++ [':', ' ']).length,
        (className ++ [':', ' '] ++ message).length⟩] := by
  have hopening : ∀ c ∈ className, c ∉ ['\n', ':', '\x22'] := by
    intro c hc hmem
    simp only [List.mem_cons, List.not_mem_nil, or_false] at hmem
    rcases hmem with rfl | rfl | rfl
    · exact hclass.not_mem (by decide) (by decide) hc
    · exact hclass.not_mem (by decide) (by decide) hc
    · exact hclass.not_mem (by decide) (by decide) hc
  have hnil : IsTail [] := Or.inl rfl
  have hfirst := first_exception_behind hopening hpath hnil
  rw [List.append_nil] at hfirst
  exact (phraseless_exceptionLine hclass hmessage).slots? hfirst

/-- **Otherwise the class in front of the colon is found.** -/
theorem slots?_exceptionLine (hclass : IsPath className) (hmessage : IsMessage message)
    (hnot : ¬IsPath message) :
    standard.slots? (exceptionLine className message) =
      some [⟨.dottedClass, 0, className.length⟩] := by
  have hchars : ∀ c ∈ message, c ∉ ['\n', ':', '\x22'] := by
    intro c hc hmem
    have hamong : ['\n', ':', '\x22'] ⊆ ['\n', '\'', ':', '\x22'] := by simp
    exact hmessage.chars c hc (hamong hmem)
  have hfirst := first_exception_front hclass hnot hchars hmessage.head
  exact (phraseless_exceptionLine hclass hmessage).slots? hfirst

end Slot

end Deobfuscation.Template
