import Deobfuscation.Proofs.Regex.Plain
import Deobfuscation.Proofs.Template.Frameless
import Deobfuscation.Proofs.Template.Parts
import Deobfuscation.Proofs.Template.StackTrace
import Deobfuscation.Proofs.Text.Cut

/-!
# Methods in a message

The message of an exception names a method by its class, its name and its argument types:

    class.method(type, type)

A comma may be a character of a type, so there may be many ways to part the arguments.  But none of
them reads a parenthesis, and what follows the arguments begins with one: however they are parted,
they are read as a whole.

* `IsTypes`, `IsArguments` — argument types;
* `IsTypes.frameless`, `NamedMethod.Legible.frameless` — **proved**: no frame begins in them, nor in
  a method;
* `mem_language_arguments` — **proved**: they are read by the expression of arguments;
* `NamedMethod` — a method as a message names it, its text, its slots and the frame it tells;
* `first_upTo`, `first_before` — **proved**: a text in front of a character that is none of it is
  read as a whole;
* `first_methodOfClass` — **proved**: so a class, a method and its arguments are captured;
* `frameOfSlots_slots`, `fillSlots_slots` — **proved**: the slots of a method tell the method, and
  filling them puts another one in its place.
-/

namespace Deobfuscation.Template

open Regex Expr
open scoped Computability

/-! ### Argument types -/

/-- Types, parted by commas that a space may follow. -/
inductive IsTypes : List Char → Prop
  | one {path : List Char} : IsPath path → IsTypes path
  | comma {path types : List Char} : IsPath path → IsTypes types → IsTypes (path ++ ',' :: types)
  | commaSpace {path types : List Char} : IsPath path → IsTypes types →
    IsTypes (path ++ ',' :: ' ' :: types)

/-- Types parted by commas, or nothing. -/
def IsArguments (s : List Char) : Prop := s = [] ∨ IsTypes s

theorem IsTypes.chars {types : List Char} (h : IsTypes types) :
    ∀ c ∈ types, isSegmentChar c = true ∨ c = '.' ∨ c = ' ' := by
  have hpath : ∀ {path : List Char}, IsPath path →
      ∀ c ∈ path, isSegmentChar c = true ∨ c = '.' ∨ c = ' ' :=
    fun h c hc => (h.chars c hc).imp_right Or.inl
  have hcomma : isSegmentChar ',' = true := by decide
  induction h with
  | one hone => exact hpath hone
  | comma hfirst _ ih =>
    rw [List.forall_mem_append, List.forall_mem_cons]
    exact ⟨hpath hfirst, Or.inl hcomma, ih⟩
  | commaSpace hfirst _ ih =>
    rw [List.forall_mem_append, List.forall_mem_cons, List.forall_mem_cons]
    exact ⟨hpath hfirst, Or.inl hcomma, Or.inr (Or.inr rfl), ih⟩

/-- Arguments contain nothing but the characters of paths and spaces. -/
theorem IsArguments.not_mem {arguments : List Char} (h : IsArguments arguments) {c : Char}
    (hc : isSegmentChar c = false) (hdot : c ≠ '.') (hspace : c ≠ ' ') : c ∉ arguments := by
  intro hmem
  rcases h with rfl | htypes
  · exact List.not_mem_nil hmem
  · rcases htypes.chars c hmem with hsegment | heq | heq
    · rw [hc] at hsegment
      exact Bool.false_ne_true hsegment
    · exact hdot heq
    · exact hspace heq

/-- No frame begins in argument types, since only spaces behind commas are in them. -/
theorem IsTypes.frameless {types : List Char} (h : IsTypes types) : Frameless types := by
  induction h with
  | one hpath => exact hpath.frameless
  | comma hpath _ ih => exact hpath.frameless.append_mark ih (by decide) (by decide)
  | commaSpace hpath _ ih =>
    exact hpath.frameless.append_mark ih.cons_space (by decide) (by decide)

theorem IsArguments.frameless {arguments : List Char} (h : IsArguments arguments) :
    Frameless arguments := by
  rcases h with rfl | htypes
  · exact frameless_of_not_substring (by decide)
  · exact htypes.frameless

/-! ### The language of arguments -/

theorem language_repeatedExpr (x : Expr) : (repeatedExpr x).language = x.language∗ := by
  rw [repeatedExpr, language, pow_zero, one_mul]

theorem language_optionalExpr (x : Expr) : (optionalExpr x).language = 1 + x.language := by
  rw [optionalExpr, language, pow_zero, one_mul, Nat.sub_zero, pow_one]

theorem mem_language_segment {s : List Char} (hs : IsSegment s) : s ∈ segmentExpr.language := by
  obtain ⟨c, t, rfl⟩ := List.exists_cons_of_ne_nil hs.ne_nil
  have hchars := contains_of_isSegment hs
  rw [segmentExpr, severalExpr, language, pow_one]
  exact Language.append_mem_mul (a := [c]) ⟨c, hchars c List.mem_cons_self, rfl⟩
    (CharSet.mem_kstar_of_contains fun d hd => hchars d (List.mem_cons_of_mem c hd))

/-- **A path is read by the expression of a path**, whatever its last segment goes on with. -/
theorem mem_language_path {path more : List Char} {last : Expr} (hpath : IsPath path)
    (hlast : ∀ s, IsSegment s → s ++ more ∈ last.language) :
    path ++ more ∈ (pathExpr last).language := by
  rw [pathExpr, language, language_repeatedExpr]
  induction hpath with
  | @segment s hs =>
    exact Language.append_mem_mul (a := []) (Language.nil_mem_kstar _) (hlast s hs)
  | @dot s path hs _ ih =>
    obtain ⟨before, hbefore, after, hafter, heq⟩ := Language.mem_mul.1 ih
    have hdot : s ++ ['.'] ∈ segmentDotExpr.language :=
      Language.append_mem_mul (mem_language_segment hs) rfl
    have hsplit : s ++ '.' :: path ++ more = s ++ ['.'] ++ before ++ after := by
      rw [List.append_assoc _ before, heq]
      simp
    rw [hsplit]
    exact Language.append_mem_mul (append_mem_kstar hdot hbefore) hafter

theorem mem_language_type {path : List Char} (hpath : IsPath path) : path ∈ typeExpr.language := by
  have hbrackets : [] ∈ bracketsExpr.language := by
    rw [bracketsExpr, language_repeatedExpr]
    exact Language.nil_mem_kstar _
  have htype : path ++ [] ∈ (pathExpr (seq segmentExpr bracketsExpr)).language :=
    mem_language_path hpath fun _ hs => Language.append_mem_mul (mem_language_segment hs) hbrackets
  rwa [List.append_nil] at htype

/-- A comma, blanks and a type are read as a further type. -/
theorem mem_language_furtherType {blanks path : List Char}
    (hblanks : ∀ c ∈ blanks, CharSet.blank.contains c = true) (hpath : IsPath path) :
    ',' :: (blanks ++ path) ∈ furtherTypeExpr.language := by
  rw [furtherTypeExpr, language, language, language, language_repeatedExpr, language]
  have htype := Language.append_mem_mul (CharSet.mem_kstar_of_contains hblanks)
    (mem_language_type hpath)
  have hcomma : [','] ∈ (char ',').language := rfl
  exact Language.append_mem_mul (a := []) (Language.nil_mem_kstar _)
    (Language.append_mem_mul hcomma htype)

/-- Types are a path and further types. -/
theorem IsTypes.exists_append {types : List Char} (h : IsTypes types) :
    ∃ path more, types = path ++ more ∧ IsPath path ∧ more ∈ furtherTypeExpr.language∗ := by
  have hfurther : ∀ {blanks path more : List Char},
      (∀ c ∈ blanks, CharSet.blank.contains c = true) → IsPath path →
      more ∈ furtherTypeExpr.language∗ →
      ',' :: (blanks ++ (path ++ more)) ∈ furtherTypeExpr.language∗ := by
    intro blanks path more hblanks hpath hmore
    have hround := append_mem_kstar (mem_language_furtherType hblanks hpath) hmore
    rwa [List.cons_append, List.append_assoc] at hround
  induction h with
  | @one path hpath => exact ⟨path, [], by simp, hpath, Language.nil_mem_kstar _⟩
  | @comma path types hpath _ ih =>
    obtain ⟨next, more, rfl, hnext, hmore⟩ := ih
    have hnone : ∀ c ∈ [], CharSet.blank.contains c = true := List.forall_mem_nil _
    exact ⟨path, _, rfl, hpath, hfurther hnone hnext hmore⟩
  | @commaSpace path types hpath _ ih =>
    obtain ⟨next, more, rfl, hnext, hmore⟩ := ih
    have hspace : ∀ c ∈ [' '], CharSet.blank.contains c = true :=
      List.forall_mem_singleton.2 (by decide)
    exact ⟨path, _, rfl, hpath, hfurther hspace hnext hmore⟩

/-- **Arguments are read by the expression of arguments.** -/
theorem mem_language_arguments {arguments : List Char} (h : IsArguments arguments) :
    arguments ∈ argumentsExpr.language := by
  rw [argumentsExpr, language_optionalExpr]
  rcases h with rfl | htypes
  · exact Or.inl Language.nil_mem_one
  · obtain ⟨path, more, rfl, hpath, hmore⟩ := htypes.exists_append
    refine Or.inr (mem_language_path hpath fun s hs => ?_)
    rw [language, language, bracketsExpr, language_repeatedExpr, language_repeatedExpr]
    exact Language.append_mem_mul (mem_language_segment hs)
      (Language.append_mem_mul (a := []) (Language.nil_mem_kstar _) hmore)

theorem isPlain_argumentsExpr : argumentsExpr.isPlain = true := rfl

theorem excludes_argumentsExpr : argumentsExpr.excludes ')' = true := by decide

/-! ### Named methods -/

/-- A method as a message names it. -/
structure NamedMethod where
  className : List Char
  method : List Char
  arguments : List Char
  deriving DecidableEq, Repr

namespace NamedMethod

/-- The method as it is written. -/
def text (m : NamedMethod) : List Char :=
  m.className ++ '.' :: (m.method ++ '(' :: (m.arguments ++ [')']))

/-- The names are a path, a segment and argument types. -/
structure Legible (m : NamedMethod) : Prop where
  className : IsPath m.className
  method : IsSegment m.method
  arguments : IsArguments m.arguments

/-- The slots of the method behind the beginning of a line. -/
def slots (opening : List Char) (m : NamedMethod) : List Slot :=
  let toMethod := opening ++ m.className ++ ['.']
  let toArguments := toMethod ++ m.method ++ ['(']
  [⟨.dottedClass, opening.length, (opening ++ m.className).length⟩,
    ⟨.method, toMethod.length, (toMethod ++ m.method).length⟩,
    ⟨.arguments, toArguments.length, (toArguments ++ m.arguments).length⟩]

/-- The method as parts of a line, behind a stretch of it. -/
def parts (kept : List Char) (m : NamedMethod) : List LinePart :=
  [⟨kept, .dottedClass, m.className⟩, ⟨['.'], .method, m.method⟩, ⟨['('], .arguments, m.arguments⟩]

/-- The captures of the three groups from an index on. -/
def captures (group : Nat) (opening : List Char) (m : NamedMethod) : List Capture :=
  ((m.slots opening).zipIdx group).reverse.map fun (slot, i) => ⟨i, slot.span⟩

/-- The frame that the method tells. -/
def frame (m : NamedMethod) : StackFrame :=
  { StackFrame.unknown with
    className := String.ofList m.className
    method := String.ofList m.method
    arguments := String.ofList m.arguments }

/-- The method that a frame names. -/
def ofFrame (frame : StackFrame) : NamedMethod :=
  ⟨frame.className.toList, frame.method.toList, frame.arguments.toList⟩

/-- The text of a method contains nothing but the characters of its names and of its form. -/
theorem Legible.not_mem {m : NamedMethod} (h : m.Legible) {c : Char}
    (hc : isSegmentChar c = false) (hform : c ∉ ['.', '(', ')', ' ']) : c ∉ m.text := by
  simp only [List.mem_cons, List.not_mem_nil, or_false, not_or] at hform
  obtain ⟨hdot, hopen, hclose, hspace⟩ := hform
  have hmethod : c ∉ m.method := fun hmem =>
    Bool.false_ne_true (hc.symm.trans (h.method.chars c hmem))
  simp only [text, List.mem_append, List.mem_cons, List.not_mem_nil, or_false, not_or]
  exact ⟨h.className.not_mem hc hdot, hdot, hmethod, hopen, h.arguments.not_mem hc hdot hspace,
    hclose⟩

/-- No frame begins in a method. -/
theorem Legible.frameless {m : NamedMethod} (h : m.Legible) : Frameless m.text := by
  have hmethod : Frameless m.method :=
    frameless_of_not_isBlank fun c hc => isBlank_of_isSegmentChar (h.method.chars c hc)
  have hclose : Frameless (m.arguments ++ [')']) :=
    h.arguments.frameless.append_mark (frameless_of_not_substring (by decide)) (by decide)
      (by decide)
  exact h.className.frameless.append_mark (hmethod.append_mark hclose (by decide) (by decide))
    (by decide) (by decide)

end NamedMethod

/-! ### How a method is read -/

section Reading

variable {next : Attempt → Option Attempt} {read rest : List Char} {captures : List Capture}
  {r : Attempt}

/-- **A text is read as a whole** up to a character that is none of it and that the expression does
not read, if only what stands in front of this character leads on. -/
theorem first_upTo {x : Expr} {c : Char} {text behind : List Char} (hplain : x.isPlain = true)
    (hexcludes : x.excludes c = true) (htext : text ∈ x.language) (hbehind : c ∉ behind)
    (hnext : next (.between (read ++ text) (behind ++ c :: rest) captures) = some r)
    (honly : ∀ read rest, ¬behind ++ [c] <+: rest → next (.between read rest captures) = none) :
    x.first next (.between read (text ++ (behind ++ c :: rest)) captures) = some r := by
  refine first_of_text hplain htext (List.prefix_append text _) ?_ ?_
  · rw [Attempt.eat_between]
    exact hnext
  · intro s hs hbegins hne
    obtain ⟨more, hmore⟩ := hbegins
    rw [Attempt.rest_between] at hmore
    rw [← hmore, Attempt.eat_between]
    refine honly _ _ ?_
    rintro ⟨tail, rfl⟩
    -- both texts end where the character stands for the first time
    refine hne ?_
    have hfront : c ∉ s ++ behind := by
      rw [List.mem_append, not_or]
      exact ⟨not_mem_of_excludes hexcludes s hs, hbehind⟩
    have hfront' : c ∉ text ++ behind := by
      rw [List.mem_append, not_or]
      exact ⟨not_mem_of_excludes hexcludes text htext, hbehind⟩
    have hline : s ++ behind ++ c :: tail = text ++ behind ++ c :: rest := by
      simpa using hmore
    have hcut := Text.cut?_char hfront tail
    rw [hline, Text.cut?_char hfront', Option.some.injEq] at hcut
    exact (List.append_cancel_right (Prod.mk.inj hcut).1).symm

/-- A text is read as a whole up to such a character, if only the character leads on. -/
theorem first_before {x : Expr} {c : Char} {text : List Char} (hplain : x.isPlain = true)
    (hexcludes : x.excludes c = true) (htext : text ∈ x.language)
    (hnext : next (.between (read ++ text) (c :: rest) captures) = some r)
    (honly : ∀ read rest, rest.head? ≠ some c → next (.between read rest captures) = none) :
    x.first next (.between read (text ++ c :: rest) captures) = some r := by
  show x.first next (.between read (text ++ ([] ++ c :: rest)) captures) = some r
  refine first_upTo hplain hexcludes htext List.not_mem_nil hnext fun read rest hnot => ?_
  refine honly read rest fun hhead => hnot ?_
  obtain ⟨tail, rfl⟩ := List.head?_eq_some_iff.1 hhead
  exact List.prefix_append [c] tail

/-- **Arguments in front of a parenthesis are read as a whole**, if nothing but the parenthesis
leads on. -/
theorem first_arguments {arguments : List Char} (harguments : IsArguments arguments)
    (hnext : next (.between (read ++ arguments) (')' :: rest) captures) = some r)
    (hclose : ∀ read rest, rest.head? ≠ some ')' → next (.between read rest captures) = none) :
    argumentsExpr.first next (.between read (arguments ++ ')' :: rest) captures) = some r :=
  first_before isPlain_argumentsExpr excludes_argumentsExpr (mem_language_arguments harguments)
    hnext hclose

/-- **A class, a method and its arguments are captured one after the other.** -/
theorem first_methodOfClass {m : NamedMethod} (hm : m.Legible) {after : Expr} {group : Nat}
    (hnext : after.first next (.between (read ++ m.className ++ ['.'] ++ m.method ++ ['('] ++
      m.arguments) (')' :: rest) (m.captures group read ++ captures)) = some r)
    (hclose : ∀ read rest captures, rest.head? ≠ some ')' →
      after.first next (.between read rest captures) = none) :
    (methodOfClassExpr group after).first next (.between read (m.text ++ rest) captures) =
      some r := by
  have hline : m.text ++ rest =
      m.className ++ '.' :: (m.method ++ '(' :: (m.arguments ++ ')' :: rest)) := by
    simp [NamedMethod.text]
  have hstop : Stops segmentSet ('(' :: (m.arguments ++ ')' :: rest)) := by
    intro c hc
    rw [List.head?_cons, Option.some.injEq] at hc
    rw [← hc, contains_segmentSet]
    decide
  rw [hline, methodOfClassExpr]
  refine first_memberOfClass hm.className hm.method (.of_head_ne hstop (by simp)) ?_
  rw [first_seq, first_char, first_seq, first_group]
  refine first_arguments hm.arguments ?_ fun read rest hhead => hclose read rest _ hhead
  exact hnext

end Reading

/-! ### Reading and writing a method -/

namespace NamedMethod

variable {m : NamedMethod} {opening rest : List Char}

/-- The line of the parts of a method is the line of its text. -/
theorem line_parts : LinePart.line (m.parts opening) (')' :: rest) = opening ++ m.text ++ rest := by
  simp [LinePart.line, parts, text]

/-- The slots of a method are those of its parts. -/
theorem slots_eq_parts : m.slots opening = LinePart.slots [] (m.parts opening) := rfl

/-- The parts of a method are read as its names. -/
theorem foldl_read_parts (hm : m.Legible) (frame : StackFrame) :
    (m.parts opening).foldl LinePart.read frame =
      { frame with
        className := String.ofList m.className
        method := String.ofList m.method
        arguments :=
          if m.arguments.isEmpty then frame.arguments else String.ofList m.arguments } := by
  have hclassSome : m.className.isEmpty = false :=
    List.isEmpty_eq_false_iff.2 hm.className.ne_nil
  have hmethodSome : m.method.isEmpty = false := List.isEmpty_eq_false_iff.2 hm.method.ne_nil
  simp only [parts, List.foldl_cons, List.foldl_nil, LinePart.read, hclassSome, hmethodSome,
    Bool.false_eq_true, if_false, Placeholder.read]
  cases m.arguments.isEmpty with
  | true => rfl
  | false => rfl

/-- **The slots of a method tell the method.** -/
theorem frameOfSlots_slots (hm : m.Legible) :
    frameOfSlots (opening ++ m.text ++ rest) (m.slots opening) = m.frame := by
  rw [← line_parts, slots_eq_parts, frameOfSlots_line, foldl_read_parts hm, frame]
  -- arguments that are empty tell nothing, and nothing is known of them before
  cases hempty : m.arguments with
  | nil => rfl
  | cons c arguments => rfl

/-- The parts of a method with the texts of a frame are the parts of the method of the frame. -/
theorem map_rewritten_parts (frame : StackFrame) :
    (m.parts opening).map (LinePart.rewritten false frame) = (ofFrame frame).parts opening := rfl

/-- **Filling the slots of a method puts the method of a frame in its place**, whose slots are what
was written. -/
theorem fillSlots_slots (frame : StackFrame) :
    fillSlots false (opening ++ m.text ++ rest) (m.slots opening) frame =
      ⟨opening ++ (ofFrame frame).text ++ rest,
        ((ofFrame frame).slots opening).map Slot.span⟩ := by
  rw [← line_parts, slots_eq_parts, fillSlots_line, map_rewritten_parts, line_parts]
  rfl

/-- The slots of a method lie in its text. -/
theorem slots_between : ∀ slot ∈ m.slots opening,
    opening.length ≤ slot.span.start ∧ slot.span.stop ≤ (opening ++ m.text).length := by
  simp only [slots, text, List.forall_mem_cons, List.length_append, List.length_cons,
    List.length_nil]
  refine ⟨⟨by omega, by omega⟩, ⟨by omega, by omega⟩, ⟨by omega, by omega⟩, by simp⟩

end NamedMethod

end Deobfuscation.Template
