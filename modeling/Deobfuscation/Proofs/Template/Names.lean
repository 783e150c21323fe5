import Deobfuscation.Proofs.LineNumber
import Deobfuscation.Proofs.Regex.First
import Deobfuscation.Proofs.Regex.Language
import Deobfuscation.Proofs.Template.Expressions

/-!
# How names are read

A name in a line is read by a greedy expression, which takes as much as it can and gives back
what it must.  A path takes the dots between its segments, and also the dot after it, if a
segment follows: only when the rest of the line does not fit, it gives the last segment back.

* `IsSegment`, `IsPath`, `IsSourceFile`, `IsFileName` — the names;
* `Closed` — where a name ends;
* `isPath_of_mem_language` — **proved**: what is read as a class is a path;
* `first_segmentDot`, `first_class` — **proved**: a class in front of a member is read up to
  the last dot before that member, if nothing after that dot can follow a class;
* `first_path` — **proved**: a class that stands for itself is read as a whole;
* `first_withinLine` — **proved**: a greedy run of any characters gives back what leads nowhere;
* `first_member`, `first_sourceFile`, `first_line` — **proved**: a member, a source file and a
  line number are read as a whole, where that leads on.
-/

namespace Deobfuscation.Template

open Regex Expr

/-! ### Names -/

/-- A character of a segment: no blank, quotation mark, colon, dot, slash or parenthesis. -/
def isSegmentChar (c : Char) : Bool :=
  !(Text.isBlank c || ['\x22', ':', '.', '/', '(', ')'].contains c)

/-- One segment of a path. -/
structure IsSegment (s : List Char) : Prop where
  ne_nil : s ≠ []
  chars : ∀ c ∈ s, isSegmentChar c = true

/-- Segments joined by dots. -/
inductive IsPath : List Char → Prop
  /-- A segment alone. -/
  | segment {s : List Char} : IsSegment s → IsPath s
  /-- A segment in front of a path. -/
  | dot {s path : List Char} : IsSegment s → IsPath path → IsPath (s ++ '.' :: path)

/-- A path begins with a character of a segment. -/
theorem IsPath.exists_cons {path : List Char} (h : IsPath path) :
    ∃ c s, path = c :: s ∧ isSegmentChar c = true := by
  have hsegment : ∀ {s : List Char}, IsSegment s → ∃ c t, s = c :: t ∧ isSegmentChar c = true := by
    intro s hs
    obtain ⟨c, t, rfl⟩ := List.exists_cons_of_ne_nil hs.ne_nil
    exact ⟨c, t, rfl, hs.chars c List.mem_cons_self⟩
  cases h with
  | segment hs => exact hsegment hs
  | @dot s path hs _ =>
    obtain ⟨c, t, rfl, hc⟩ := hsegment hs
    exact ⟨c, t ++ '.' :: path, rfl, hc⟩

theorem IsPath.ne_nil {path : List Char} (h : IsPath path) : path ≠ [] := by
  obtain ⟨c, s, rfl, -⟩ := h.exists_cons
  exact List.cons_ne_nil c s

theorem IsPath.chars {path : List Char} (h : IsPath path) :
    ∀ c ∈ path, isSegmentChar c = true ∨ c = '.' := by
  induction h with
  | segment hs => exact fun c hc => Or.inl (hs.chars c hc)
  | dot hs _ ih =>
    intro c hc
    rcases List.mem_append.1 hc with hc | hc
    · exact Or.inl (hs.chars c hc)
    · exact (List.mem_cons.1 hc).elim Or.inr (ih c)

/-- A path contains nothing but its segments and dots. -/
theorem IsPath.not_mem {path : List Char} (h : IsPath path) {c : Char}
    (hc : isSegmentChar c = false) (hdot : c ≠ '.') : c ∉ path := by
  intro hmem
  rcases h.chars c hmem with hsegment | heq
  · rw [hc] at hsegment
    exact Bool.false_ne_true hsegment
  · exact hdot heq

/-- The name of a source file: no quotation mark, colon or parenthesis, and no digit in front. -/
structure IsSourceFile (s : List Char) : Prop where
  ne_nil : s ≠ []
  chars : ∀ c ∈ s, c ∉ ['\x22', ':', '(', ')']
  head : ∀ c, s.head? = some c → Text.isDecimal c = false

/-- A text that is read as the name of a source file, if something is: a quotation mark may be in
it. -/
structure IsFileName (s : List Char) : Prop where
  ne_nil : s ≠ []
  chars : ∀ c ∈ s, c ∉ [':', '(', ')']
  head : ∀ c, s.head? = some c → Text.isDecimal c = false

theorem IsSourceFile.isFileName {s : List Char} (h : IsSourceFile s) : IsFileName s :=
  ⟨h.ne_nil, fun c hc hmem => h.chars c hc (List.mem_cons_of_mem _ hmem), h.head⟩

/-- A source file does not begin with a parenthesis. -/
theorem IsFileName.head?_append_ne {s : List Char} (h : IsFileName s) (rest : List Char) :
    (s ++ rest).head? ≠ some ')' := by
  obtain ⟨c, s, rfl⟩ := List.exists_cons_of_ne_nil h.ne_nil
  intro hhead
  exact h.chars c List.mem_cons_self (by simp [Option.some.inj hhead])

-- the characters of the text are tried, not all characters there are
instance (s : List Char) : Decidable (IsSegment s) :=
  have : Decidable (∀ c ∈ s, isSegmentChar c = true) := List.decidableBAll _ _
  decidable_of_iff (s ≠ [] ∧ ∀ c ∈ s, isSegmentChar c = true)
    ⟨fun h => ⟨h.1, h.2⟩, fun h => ⟨h.ne_nil, h.chars⟩⟩

/-! ### Sets -/

theorem contains_unionOf (sets : List CharSet) (c : Char) :
    (CharSet.unionOf sets).contains c = sets.any (·.contains c) := by
  induction sets with
  | nil => rfl
  | cons s sets ih =>
    cases sets with
    | nil => simp [CharSet.unionOf]
    | cons t sets =>
      rw [List.any_cons, ← ih]
      rfl

theorem any_contains_only (cs : List Char) (c : Char) :
    (cs.map CharSet.only).any (·.contains c) = cs.contains c := by
  rw [Bool.eq_iff_iff, List.any_map, List.any_eq_true, List.contains_iff_mem]
  constructor
  · rintro ⟨d, hd, hc⟩
    exact (CharSet.contains_only d c).1 hc ▸ hd
  · exact fun hc => ⟨c, hc, (CharSet.contains_only c c).2 rfl⟩

theorem contains_setWithout (cs : List Char) (c : Char) :
    (setWithout cs).contains c = !cs.contains c := by
  rw [setWithout, CharSet.contains, contains_unionOf, any_contains_only]

theorem contains_lineSet {c : Char} : lineSet.contains c = true ↔ c ≠ '\n' := by
  rw [lineSet, contains_setWithout]
  simp

theorem contains_segmentSet (c : Char) : segmentSet.contains c = isSegmentChar c := by
  rw [segmentSet, CharSet.contains, contains_unionOf, List.any_cons, any_contains_only]
  rfl

theorem contains_sourceFileHeadSet (c : Char) :
    sourceFileHeadSet.contains c = !([':', '(', ')'].contains c || Text.isDecimal c) := by
  rw [sourceFileHeadSet, CharSet.contains, contains_unionOf, List.any_append, any_contains_only]
  simp [CharSet.contains]

theorem contains_of_isSegment {s : List Char} (hs : IsSegment s) :
    ∀ c ∈ s, segmentSet.contains c = true := by
  intro c hc
  rw [contains_segmentSet]
  exact hs.chars c hc

/-- No path begins with a blank. -/
theorem IsPath.stops_blank {path : List Char} (h : IsPath path) (rest : List Char) :
    Stops .blank (path ++ rest) := by
  obtain ⟨c, s, rfl, hc⟩ := h.exists_cons
  intro d hd
  rw [List.cons_append, List.head?_cons, Option.some.injEq] at hd
  rw [isSegmentChar, Bool.not_eq_true', Bool.or_eq_false_iff] at hc
  rw [← hd]
  exact hc.1

/-- No segment goes on with a dot. -/
theorem stops_dot {s : List Char} : Stops segmentSet ('.' :: s) := by
  intro c hc
  rw [List.head?_cons, Option.some.injEq] at hc
  rw [← hc, contains_segmentSet]
  decide

/-- A name ends here: no character of a segment follows, and no dot with one behind it. -/
structure Closed (rest : List Char) : Prop where
  stops : Stops segmentSet rest
  dot : ∀ more, rest = '.' :: more → Stops segmentSet more

theorem Closed.of_head_ne {rest : List Char} (hstop : Stops segmentSet rest)
    (hdot : rest.head? ≠ some '.') : Closed rest :=
  ⟨hstop, fun _ h => absurd (h ▸ rfl) hdot⟩

theorem ne_dot_of_isSegmentChar {c : Char} (h : isSegmentChar c = true) : c ≠ '.' := by
  rintro rfl
  revert h
  decide

/-! ### Languages of parts -/

/-- What a run reads are characters of its set. -/
theorem contains_of_mem_repeated {s : CharSet} {t : List Char}
    (h : t ∈ (repeatedExpr (set s)).language) : ∀ c ∈ t, s.contains c = true := by
  rw [repeatedExpr, language, pow_zero, one_mul] at h
  exact CharSet.contains_of_mem_kstar h

/-- What a run of at least one character reads are characters of its set. -/
theorem contains_of_mem_several {s : CharSet} {t : List Char}
    (h : t ∈ (severalExpr (set s)).language) : t ≠ [] ∧ ∀ c ∈ t, s.contains c = true := by
  rw [severalExpr, language, pow_one, language] at h
  obtain ⟨first, ⟨c, hc, rfl⟩, more, hmore, rfl⟩ := Language.mem_mul.1 h
  refine ⟨by simp, List.forall_mem_append.2 ⟨List.forall_mem_singleton.2 hc, ?_⟩⟩
  exact CharSet.contains_of_mem_kstar hmore

/-- An option reads nothing or what the expression reads. -/
theorem nil_or_mem_of_mem_optional {x : Expr} {t : List Char}
    (h : t ∈ (optionalExpr x).language) : t = [] ∨ t ∈ x.language := by
  rw [optionalExpr, language, pow_zero, one_mul, Nat.sub_zero, pow_one] at h
  exact h

/-! ### What is read as a class -/

/-- A segment is all that a segment expression reads. -/
theorem isSegment_of_mem_language {s : List Char} (h : s ∈ segmentExpr.language) :
    IsSegment s := by
  obtain ⟨hne, hchars⟩ := contains_of_mem_several h
  exact ⟨hne, fun c hc => contains_segmentSet c ▸ hchars c hc⟩

/-- **A path is all that a class expression reads.** -/
theorem isPath_of_mem_language {path : List Char} (h : path ∈ classExpr.language) :
    IsPath path := by
  rw [classExpr, pathExpr, language, repeatedExpr, language, pow_zero, one_mul] at h
  obtain ⟨before, hbefore, last, hlast, rfl⟩ := Language.mem_mul.1 h
  obtain ⟨parts, rfl, hparts⟩ := Language.mem_kstar.1 hbefore
  clear h hbefore
  -- one segment and its dot after the other, in front of the last segment
  induction parts with
  | nil => exact .segment (isSegment_of_mem_language hlast)
  | cons part parts ih =>
    obtain ⟨s, hs, dot, rfl, rfl⟩ := Language.mem_mul.1 (hparts part List.mem_cons_self)
    have hpath := ih fun part hmem => hparts part (List.mem_cons_of_mem _ hmem)
    rw [List.flatten_cons, List.append_assoc, List.append_assoc]
    exact .dot (isSegment_of_mem_language hs) hpath

/-! ### Literal texts -/

section Reading

variable {next : Attempt → Option Attempt} {read rest : List Char} {captures : List Capture}
  {r : Attempt}

theorem first_text (s : String) :
    (textExpr s).first next (.between read (s.toList ++ rest) captures) =
      next (.between (read ++ s.toList) rest captures) := by
  rw [textExpr, first_literal (Attempt.rest_between _ _ _), Attempt.eat_between]

theorem first_char (c : Char) :
    (char c).first next (.between read (c :: rest) captures) =
      next (.between (read ++ [c]) rest captures) := by
  show (literal [c]).first next (.between read ([c] ++ rest) captures) = _
  rw [first_literal (Attempt.rest_between _ _ _), Attempt.eat_between]

/-- A text leads nowhere if the line goes on with another character. -/
theorem first_literal_of_head_ne {c : Char} {s : List Char} (h : rest.head? ≠ some c) :
    (literal (c :: s)).first next (.between read rest captures) = none := by
  refine first_literal_of_not_prefix fun hprefix => h ?_
  obtain ⟨t, ht⟩ := hprefix
  rw [← show (c :: s) ++ t = rest from ht]
  rfl

theorem first_char_of_head_ne {c : Char} (h : rest.head? ≠ some c) :
    (char c).first next (.between read rest captures) = none := first_literal_of_head_ne h

/-- **The characters of a line are read up to where the line goes on for the last time.** -/
theorem first_withinLine {front back : List Char} (hline : '\n' ∉ front ++ back)
    (hnext : next (.between (read ++ front) back captures) = some r)
    (hlonger : ∀ read p q, back = p ++ q → p ≠ [] → next (.between read q captures) = none) :
    (repeatedExpr (set lineSet)).first next (.between read (front ++ back) captures) = some r := by
  have hrun : ∀ c ∈ front ++ back, lineSet.contains c = true :=
    fun c hc => contains_lineSet.2 fun heq => hline (heq ▸ hc)
  have hrest : (Attempt.between read (front ++ back) captures).cursor.rest =
      front ++ back ++ [] := by simp
  refine first_span_front hrest hrun (stops_nil _) ?_ fun p q hsplit hp => ?_
  · rwa [Attempt.eat_between]
  · rw [hsplit, ← List.append_assoc, Attempt.eat_between]
    exact hlonger _ p q hsplit hp

theorem first_repeated {x : Expr} (hx : x.isNullable = false) {a : Attempt} :
    (repeatedExpr x).first next a = (x.first ((repeatedExpr x).first next) a).or (next a) :=
  first_star hx

/-! ### Segments and paths -/

/-- **A segment and a dot are read only where the dot stands right after the segment.** -/
theorem first_segmentDot {s : List Char} (hs : IsSegment s) (hstop : Stops segmentSet rest) :
    segmentDotExpr.first next (.between read (s ++ rest) captures) =
      (char '.').first next (.between (read ++ s) rest captures) := by
  have hchars := contains_of_isSegment hs
  rw [segmentDotExpr, first_seq, segmentExpr, severalExpr]
  cases hdot : (char '.').first next (.between (read ++ s) rest captures) with
  | some r =>
    refine first_run rfl hs.ne_nil hchars hstop ?_
    rw [Attempt.eat_between, hdot]
  | none =>
    refine first_run_none rfl hchars hstop fun p q hsplit _ => ?_
    cases q with
    | nil =>
      rw [List.append_nil] at hsplit
      rw [← hsplit, Attempt.eat_between, hdot]
    | cons c q =>
      -- inside of the segment there is no dot
      have hc : c ≠ '.' := ne_dot_of_isSegmentChar (hs.chars c (by simp [hsplit]))
      rw [hsplit, List.append_assoc, Attempt.eat_between]
      exact first_char_of_head_ne (by simpa using hc)

/-- No segment and dot are read where a name ends, and no class. -/
theorem first_repeated_segmentDot_of_stops (hstop : Stops segmentSet rest) :
    (repeatedExpr segmentDotExpr).first (segmentExpr.first next) (.between read rest captures) =
      none := by
  rw [first_repeated rfl, segmentDotExpr, first_seq, segmentExpr, severalExpr]
  have hrest : Stops segmentSet (Attempt.between read rest captures).cursor.rest := by
    rwa [Attempt.rest_between]
  rw [first_run_of_stops hrest, first_run_of_stops hrest, Option.none_or]

/-- **A class in front of a member is read up to the dot before the member**, if the line does not
go on after any beginning of the member. -/
theorem first_class {path member : List Char} (hpath : IsPath path) (hmember : IsSegment member)
    (hclosed : Closed rest)
    (hnone : ∀ read p q, member = p ++ q → next (.between read (q ++ rest) captures) = none) :
    ∀ {read : List Char},
      next (.between (read ++ path) ('.' :: (member ++ rest)) captures) = some r →
      classExpr.first next (.between read (path ++ '.' :: (member ++ rest)) captures) = some r := by
  have hnullable : segmentDotExpr.isNullable = false := rfl
  -- a class that is read from the member on leads nowhere
  have hend : ∀ {read : List Char},
      (repeatedExpr segmentDotExpr).first (segmentExpr.first next)
        (.between read (member ++ rest) captures) = none := by
    intro read
    have hend : (char '.').first ((repeatedExpr segmentDotExpr).first (segmentExpr.first next))
        (.between (read ++ member) rest captures) = none := by
      by_cases hdot : rest.head? = some '.'
      · obtain ⟨more, rfl⟩ := List.head?_eq_some_iff.1 hdot
        rw [first_char, first_repeated_segmentDot_of_stops (hclosed.dot more rfl)]
      · exact first_char_of_head_ne hdot
    rw [first_repeated hnullable, first_segmentDot hmember hclosed.stops, hend, Option.none_or]
    refine first_run_none rfl (contains_of_isSegment hmember) hclosed.stops fun p q hsplit _ => ?_
    rw [hsplit, List.append_assoc, Attempt.eat_between]
    exact hnone _ p q hsplit
  rw [classExpr, pathExpr]
  induction hpath with
  | @segment s hs =>
    intro read hnext
    rw [first_seq, first_repeated hnullable, first_segmentDot hs stops_dot]
    have hskip : (char '.').first
        ((repeatedExpr segmentDotExpr).first (segmentExpr.first next))
        (.between (read ++ s) ('.' :: (member ++ rest)) captures) =
          (repeatedExpr segmentDotExpr).first (segmentExpr.first next)
            (.between (read ++ s ++ ['.']) (member ++ rest) captures) :=
      first_char '.'
    rw [hskip, hend, Option.none_or]
    refine first_run rfl hs.ne_nil (contains_of_isSegment hs) stops_dot ?_
    rw [Attempt.eat_between]
    exact hnext
  | @dot s path hs _ ih =>
    intro read hnext
    have hrest : (s ++ '.' :: path) ++ '.' :: (member ++ rest) =
        s ++ '.' :: (path ++ '.' :: (member ++ rest)) := by
      simp
    have hread : read ++ (s ++ '.' :: path) = read ++ s ++ ['.'] ++ path := by
      simp
    rw [hread] at hnext
    have hlater := ih hnext
    rw [first_seq] at hlater
    rw [hrest, first_seq, first_repeated hnullable, first_segmentDot hs stops_dot, first_char,
      hlater, Option.some_or]

/-- **A class is read as a whole**, if the line does not go on like a class after it. -/
theorem first_path {path : List Char} (hpath : IsPath path) (hstop : Stops segmentSet rest)
    (hdot : rest.head? ≠ some '.') :
    ∀ {read : List Char}, next (.between (read ++ path) rest captures) = some r →
      classExpr.first next (.between read (path ++ rest) captures) = some r := by
  have hnullable : segmentDotExpr.isNullable = false := rfl
  rw [classExpr, pathExpr]
  induction hpath with
  | @segment s hs =>
    intro read hnext
    rw [first_seq, first_repeated hnullable, first_segmentDot hs hstop, first_char_of_head_ne hdot,
      Option.none_or]
    refine first_run rfl hs.ne_nil (contains_of_isSegment hs) hstop ?_
    rw [Attempt.eat_between]
    exact hnext
  | @dot s path hs _ ih =>
    intro read hnext
    have hrest : (s ++ '.' :: path) ++ rest = s ++ '.' :: (path ++ rest) := by simp
    have hread : read ++ (s ++ '.' :: path) = read ++ s ++ ['.'] ++ path := by simp
    rw [hread] at hnext
    have hlater := ih hnext
    rw [first_seq] at hlater
    rw [hrest, first_seq, first_repeated hnullable, first_segmentDot hs stops_dot, first_char,
      hlater, Option.some_or]

/-! ### Members -/

/-- **A member is read as a whole where that leads on.** -/
theorem first_member {member : List Char} (hmember : IsSegment member)
    (hstop : Stops segmentSet rest)
    (hnext : next (.between (read ++ member) rest captures) = some r) :
    memberExpr.first next (.between read (member ++ rest) captures) = some r := by
  -- all of a segment is read, and no angle bracket after it
  have hsegment : ∀ {read s : List Char}, IsSegment s →
      next (.between (read ++ s) rest captures) = some r →
      (seq segmentExpr (optionalExpr (char '>'))).first next
        (.between read (s ++ rest) captures) = some r := by
    intro read s hs hnext
    rw [first_seq]
    refine first_run rfl hs.ne_nil ?_ hstop ?_
    · intro c hc
      rw [contains_segmentSet]
      exact hs.chars c hc
    · rw [Attempt.eat_between, optionalExpr, first_optional_none, hnext]
      refine first_char_of_head_ne fun hhead => ?_
      have := hstop '>' hhead
      rw [contains_segmentSet] at this
      revert this
      decide
  rw [memberExpr, first_seq, optionalExpr, first_optional]
  have hwhole := hsegment hmember hnext
  cases member with
  | nil => exact absurd rfl hmember.ne_nil
  | cons c s =>
    by_cases hbracket : c = '<'
    · subst hbracket
      rw [show ('<' :: s) ++ rest = '<' :: (s ++ rest) from rfl] at hwhole ⊢
      rw [first_char]
      by_cases hs : s = []
      · -- the bracket is the whole name, so it is given back
        subst hs
        have hnone : (seq segmentExpr (optionalExpr (char '>'))).first next
            (.between (read ++ ['<']) ([] ++ rest) captures) = none := by
          rw [first_seq]
          have hrest : (Attempt.between (read ++ ['<']) ([] ++ rest) captures).cursor.rest =
              [] ++ rest := Attempt.rest_between _ _ _
          exact first_run_none hrest (by simp) hstop fun p q hsplit hp =>
            absurd (List.append_eq_nil_iff.1 hsplit.symm).1 hp
        rw [hnone, Option.none_or]
        exact hwhole
      · have hlater : IsSegment s :=
          ⟨hs, fun d hd => hmember.chars d (List.mem_cons_of_mem '<' hd)⟩
        rw [hsegment hlater (by simpa using hnext), Option.some_or]
    · rw [first_char_of_head_ne (by simpa using hbracket), Option.none_or]
      exact hwhole

/-- No member is read where a name ends. -/
theorem first_member_of_stops (hstop : Stops segmentSet rest) :
    memberExpr.first next (.between read rest captures) = none := by
  have hbracket : rest.head? ≠ some '<' := fun hhead => by
    have := hstop '<' hhead
    rw [contains_segmentSet] at this
    revert this
    decide
  rw [memberExpr, first_seq, optionalExpr, first_optional, first_char_of_head_ne hbracket,
    Option.none_or, first_seq, segmentExpr, severalExpr, first_run_of_stops]
  rwa [Attempt.rest_between]

/-! ### Source files and lines -/

/-- **A source file is read as a whole where that leads on.** -/
theorem first_sourceFile {file : List Char} (hfile : IsFileName file)
    (hstop : Stops (setWithout [':', '(', ')']) rest)
    (hnext : next (.between (read ++ file) rest captures) = some r) :
    sourceFileExpr.first next (.between read (file ++ rest) captures) = some r := by
  cases file with
  | nil => exact absurd rfl hfile.ne_nil
  | cons c s =>
    have hplain : ∀ d ∈ c :: s, [':', '(', ')'].contains d = false := by
      intro d hd
      have := hfile.chars d hd
      simp only [List.mem_cons, not_or] at this
      simp [this]
    have hhead : sourceFileHeadSet.contains c = true := by
      rw [contains_sourceFileHeadSet, hplain c List.mem_cons_self, hfile.head c rfl]
      rfl
    refine first_optional_some ?_
    have hrest : (Attempt.between read (c :: s ++ rest) captures).cursor.rest = c :: (s ++ rest) :=
      Attempt.rest_between _ _ _
    rw [first_seq, first_set hrest hhead]
    rw [show (c :: s) ++ rest = [c] ++ (s ++ rest) from rfl, Attempt.eat_between]
    refine first_span rfl ?_ hstop ?_
    · intro d hd
      rw [contains_setWithout, hplain d (List.mem_cons_of_mem c hd)]
      rfl
    · rw [Attempt.eat_between, List.append_assoc]
      exact hnext

/-- An ASCII digit belongs to a word. -/
theorem isWord_of_isDigit {c : Char} (h : c.isDigit = true) : Text.isWord c = true := by
  have hrange : 48 ≤ c.toNat ∧ c.toNat ≤ 57 := by
    simpa [Char.isDigit, UInt32.le_iff_toNat_le] using h
  have hascii : c.toNat < 0x80 := by omega
  rw [Text.isWord, if_pos hascii, Text.isAsciiWord, Char.isAlphanum, h, Bool.or_true, Bool.true_or]

/-- **A line number is read as a whole where that leads on.** -/
theorem first_line (n : LineNumber) (hbefore : read.getLast?.any Text.isWord = false)
    (hafter : rest.head?.any Text.isWord = false) (hstop : Stops .decimal rest)
    (hnext : next (.between (read ++ n.text) rest captures) = some r) :
    lineExpr.first next (.between read (n.text ++ rest) captures) = some r := by
  obtain ⟨digits, hne, hdigits, htext⟩ := n.exists_digits_of_text
  obtain ⟨d, ds, hcons⟩ := List.exists_cons_of_ne_nil hne
  have hd : d.isDigit = true := hdigits d (by simp [hcons])
  -- between two word boundaries there are the digits
  have hunsigned : ∀ {read : List Char}, read.getLast?.any Text.isWord = false →
      next (.between (read ++ digits) rest captures) = some r →
      (seq wordBoundary (seq (severalExpr (set .decimal)) wordBoundary)).first next
        (.between read (digits ++ rest) captures) = some r := by
    intro read hbefore hnext
    have hstart : (Assertion.word false .boundary).holds read.getLast? (digits ++ rest).head? =
        true := by
      simp [Assertion.holds, WordPlace.holds, hbefore, hcons, isWord_of_isDigit hd]
    have hlast : (read ++ digits).getLast?.any Text.isWord = true := by
      rw [List.getLast?_append_of_ne_nil _ hne, List.getLast?_eq_getLast_of_ne_nil hne]
      exact isWord_of_isDigit (hdigits _ (List.getLast_mem hne))
    have hend : (Assertion.word false .boundary).holds (read ++ digits).getLast? rest.head? =
        true := by
      simp only [Assertion.holds, WordPlace.holds]
      rw [if_neg (by decide), hlast, hafter]
      rfl
    rw [first_seq, wordBoundary, first_assert hstart, first_seq]
    refine first_run rfl hne (fun c hc => Text.isDecimal_of_isDigit (hdigits c hc)) hstop ?_
    rw [Attempt.eat_between, first_assert hend, hnext]
  rw [lineExpr, first_seq, optionalExpr]
  rcases htext with htext | htext
  · rw [htext] at hnext ⊢
    rw [first_optional_none]
    · exact hunsigned hbefore hnext
    · refine first_char_of_head_ne fun hhead => ?_
      rw [hcons, List.cons_append, List.head?_cons, Option.some.injEq] at hhead
      rw [hhead] at hd
      revert hd
      decide
  · rw [htext] at hnext ⊢
    refine first_optional_some ?_
    rw [List.cons_append, first_char]
    refine hunsigned (by simp [List.getLast?_append]; decide) ?_
    rw [List.append_assoc]
    exact hnext

end Reading

end Deobfuscation.Template
