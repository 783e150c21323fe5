import Deobfuscation.Proofs.Template.Source

/-!
# Where a frame begins

A frame begins at the word `at`, if a class and a method follow it: whatever stands behind the
method can be read.  Of a line the first frame is read.  Names have no blanks in them, so a frame
that begins further ahead would end in front of the blanks behind this one's `at`, and whether there
is such a frame does not depend on the names that follow.

* `StartsFrame` — a frame begins here;
* `IsPath.append`, `exists_closed` — **proved**: names can be taken to go on as far as they do;
* `first_classOfMember`, `first_memberOfClass`, `first_frame` — **proved**: how the class and the
  method are read;
* `isSome_frame_iff` — **proved**: a frame is read exactly where one begins;
* `StartsFrame.congr` — **proved**: what stands behind later blanks has no part in it;
* `IsOpening` — what stands in front of the class in the first frame of a line;
* `first_stackTrace_of_opening`, `exists_opening_of_first` — **proved**: such a line is read as its
  first frame, and every line that is read as a frame is one.
-/

namespace Deobfuscation.Template

open Regex Expr

/-! ### Names that go on -/

/-- Two paths joined by a dot are a path. -/
theorem IsPath.append {path more : List Char} (h : IsPath path) (hmore : IsPath more) :
    IsPath (path ++ '.' :: more) := by
  induction h with
  | segment hs => exact .dot hs hmore
  | @dot s path hs _ ih =>
    rw [List.append_assoc, List.cons_append]
    exact .dot hs ih

/-- What is read as a member is a segment, its brackets included. -/
theorem isSegment_of_mem_member {s : List Char} (h : s ∈ memberExpr.language) : IsSegment s := by
  obtain ⟨left, hleft, rest, hrest, rfl⟩ := Language.mem_mul.1 h
  obtain ⟨middle, hmiddle, right, hright, rfl⟩ := Language.mem_mul.1 hrest
  have hsegment := isSegment_of_mem_language hmiddle
  have hbracket : ∀ {c : Char} {t : List Char}, isSegmentChar c = true →
      t ∈ (optionalExpr (char c)).language → ∀ d ∈ t, isSegmentChar d = true := by
    intro c t hc ht
    rcases nil_or_mem_of_mem_optional ht with rfl | hchar
    · exact List.forall_mem_nil _
    · obtain rfl : t = [c] := hchar
      exact List.forall_mem_singleton.2 hc
  refine ⟨by simp [hsegment.ne_nil], List.forall_mem_append.2 ⟨hbracket (by decide) hleft, ?_⟩⟩
  exact List.forall_mem_append.2 ⟨hsegment.chars, hbracket (by decide) hright⟩

/-- **A class and a member can be taken to go on as far as they do.** -/
theorem exists_closed {path member : List Char} (rest : List Char) (hpath : IsPath path)
    (hmember : IsSegment member) :
    ∃ path' member' rest', IsPath path' ∧ IsSegment member' ∧ Closed rest' ∧
      path ++ '.' :: (member ++ rest) = path' ++ '.' :: (member' ++ rest') := by
  match rest with
  | [] => exact ⟨path, member, [], hpath, hmember, .of_head_ne (stops_nil _) (by simp), rfl⟩
  | c :: rest =>
    cases hc : isSegmentChar c with
    | true =>
      -- the member is longer
      have hlonger : IsSegment (member ++ [c]) :=
        ⟨by simp, List.forall_mem_append.2 ⟨hmember.chars, List.forall_mem_singleton.2 hc⟩⟩
      obtain ⟨path', member', rest', hpath', hmember', hclosed, htext⟩ :=
        exists_closed rest hpath hlonger
      refine ⟨path', member', rest', hpath', hmember', hclosed, ?_⟩
      rw [← htext, List.append_assoc]
      rfl
    | false =>
      have hstop : Stops segmentSet (c :: rest) :=
        stops_cons ((contains_segmentSet c).trans hc) rest
      by_cases hdot : c = '.'
      · subst hdot
        match rest with
        | [] =>
          refine ⟨path, member, ['.'], hpath, hmember, ⟨hstop, fun more h => ?_⟩, rfl⟩
          rw [← (List.cons.inj h).2]
          exact stops_nil _
        | d :: rest =>
          cases hd : isSegmentChar d with
          | true =>
            -- the member belongs to the path
            have hnext : IsSegment [d] := ⟨by simp, List.forall_mem_singleton.2 hd⟩
            obtain ⟨path', member', rest', hpath', hmember', hclosed, htext⟩ :=
              exists_closed rest (hpath.append (.segment hmember)) hnext
            refine ⟨path', member', rest', hpath', hmember', hclosed, ?_⟩
            rw [← htext, List.append_assoc]
            rfl
          | false =>
            refine ⟨path, member, '.' :: d :: rest, hpath, hmember, ⟨hstop, fun more h => ?_⟩, rfl⟩
            rw [← (List.cons.inj h).2]
            exact stops_cons ((contains_segmentSet d).trans hd) rest
      · exact ⟨path, member, c :: rest, hpath, hmember, .of_head_ne hstop (by simpa using hdot),
          rfl⟩
termination_by rest.length

/-- Where a name ends at some text in front of a parenthesis, what is inside does not matter. -/
theorem Closed.congr {front inside inside' : List Char} (h : Closed (front ++ '(' :: inside)) :
    Closed (front ++ '(' :: inside') := by
  have hparen : ∀ s : List Char, Stops segmentSet ('(' :: s) :=
    stops_cons (by rw [contains_segmentSet]; decide)
  cases front with
  | nil => exact .of_head_ne (hparen inside') (by simp)
  | cons c front =>
    refine ⟨fun d hd => h.stops d hd, fun more hmore => ?_⟩
    obtain ⟨rfl, rfl⟩ := List.cons.inj hmore
    have hinside := h.dot (front ++ '(' :: inside) rfl
    cases front with
    | nil => exact hparen inside'
    | cons e front => exact fun d hd => hinside d hd

/-! ### Frames -/

/-- The word `at`, a class and a method, and what follows them. -/
def frameExpr : Expr :=
  seq wordBoundary
    (seq (textExpr "at") (seq (severalExpr (set .blank)) (memberOfClassExpr 1 sourceExpr)))

theorem stackTraceExpr_eq :
    stackTraceExpr = seq (rounds 0 none false (set lineSet)) frameExpr := rfl

/-- Blanks, and at least one of them. -/
def IsGap (s : List Char) : Prop := s ≠ [] ∧ ∀ c ∈ s, CharSet.blank.contains c = true

/-- A word begins here. -/
def StartsWord (read : List Char) : Prop :=
  (Assertion.word false .boundary).holds read.getLast? (some 'a') = true

/-- A frame begins here. -/
def StartsFrame (read rest : List Char) : Prop :=
  StartsWord read ∧ ∃ blanks path member more, IsGap blanks ∧ IsPath path ∧ IsSegment member ∧
    rest = "at".toList ++ (blanks ++ (path ++ '.' :: (member ++ more)))

/-- A line up to the method of its frame. -/
def upToMethod (before blanks path member : List Char) : List Char :=
  before ++ "at".toList ++ blanks ++ path ++ ['.'] ++ member

/-- The class and the method of a frame, captured. -/
def namesCaptured (before blanks path member : List Char) : List Capture :=
  let toClass := before ++ "at".toList ++ blanks
  [⟨2, (toClass ++ path ++ ['.']).length, (toClass ++ path ++ ['.'] ++ member).length⟩,
    ⟨1, toClass.length, (toClass ++ path).length⟩]

section Reading

variable {next : Attempt → Option Attempt} {read rest : List Char} {captures : List Capture}
  {r : Attempt} {blanks path member : List Char}

/-- **A class in front of a member is captured**, where the member is read and leads on. -/
theorem first_classOfMember {after : Expr} {group : Nat} (hpath : IsPath path)
    (hmember : IsSegment member) (hclosed : Closed rest)
    (hread : (Expr.group (group + 1) memberExpr).first (after.first next)
      (.between (read ++ path ++ ['.']) (member ++ rest)
        (⟨group, read.length, (read ++ path).length⟩ :: captures)) = some r) :
    (memberOfClassExpr group after).first next
      (.between read (path ++ '.' :: (member ++ rest)) captures) = some r := by
  rw [memberOfClassExpr, first_seq, first_group]
  refine first_class hpath hmember hclosed ?_ ?_
  · intro read' p q hsplit
    rw [first_seq]
    cases q with
    | nil =>
      -- a dot behind the member has no other member behind it
      rw [List.nil_append]
      by_cases hdot : rest.head? = some '.'
      · obtain ⟨more, rfl⟩ := List.head?_eq_some_iff.1 hdot
        show (char '.').first _ (.between read' ('.' :: more) (_ :: captures)) = none
        rw [first_char, first_seq, first_group]
        exact first_member_of_stops (hclosed.dot more rfl)
      · exact first_char_of_head_ne hdot
    | cons c q =>
      -- no dot follows a beginning of the member
      have hc := ne_dot_of_isSegmentChar (hmember.chars c (by simp [hsplit]))
      exact first_char_of_head_ne (by simpa using hc)
  · rw [Attempt.position_between, Attempt.capture_between, first_seq, first_char, first_seq]
    exact hread

/-- **A class and a member are captured one after the other.** -/
theorem first_memberOfClass {after : Expr} {group : Nat} (hpath : IsPath path)
    (hmember : IsSegment member) (hclosed : Closed rest)
    (hnext : after.first next (.between (read ++ path ++ ['.'] ++ member) rest
      (⟨group + 1, (read ++ path ++ ['.']).length, (read ++ path ++ ['.'] ++ member).length⟩ ::
        ⟨group, read.length, (read ++ path).length⟩ :: captures)) = some r) :
    (memberOfClassExpr group after).first next
      (.between read (path ++ '.' :: (member ++ rest)) captures) = some r := by
  refine first_classOfMember hpath hmember hclosed ?_
  rw [first_group]
  exact first_member hmember hclosed.stops hnext

/-- What was read as a class and a member is one. -/
theorem exists_names_of_first {after : Expr} {group : Nat}
    (h : (memberOfClassExpr group after).first next (.between read rest captures) = some r) :
    ∃ path member more, IsPath path ∧ IsSegment member ∧
      rest = path ++ '.' :: (member ++ more) := by
  rw [memberOfClassExpr, first_seq, first_group] at h
  obtain ⟨path, hpath, rest', rfl, hdot⟩ := exists_text_of_first rfl h
  rw [Attempt.position_between, Attempt.capture_between, first_seq] at hdot
  obtain ⟨behind, rfl, hgroup⟩ := exists_of_first_literal hdot
  rw [first_seq, first_group] at hgroup
  obtain ⟨member, hmember, more, rfl, -⟩ := exists_text_of_first rfl hgroup
  exact ⟨path, member, more, isPath_of_mem_language hpath, isSegment_of_mem_member hmember, rfl⟩

/-- **A frame is read up to its method, and what follows is read as it can be.** -/
theorem first_frame (hstart : StartsWord read) (hgap : IsGap blanks) (hpath : IsPath path)
    (hmember : IsSegment member) (hclosed : Closed rest) :
    frameExpr.first some
        (.between read ("at".toList ++ (blanks ++ (path ++ '.' :: (member ++ rest)))) []) =
      sourceExpr.first some (.between (upToMethod read blanks path member) rest
        (namesCaptured read blanks path member)) := by
  obtain ⟨r, hr, -⟩ := exists_first_source
    (.between (upToMethod read blanks path member) rest (namesCaptured read blanks path member))
  have hword : (Assertion.word false .boundary).holds read.getLast? (some 'a') = true := hstart
  rw [hr, frameExpr, first_seq, wordBoundary, first_assert hword, first_seq, first_text, first_seq]
  refine first_run rfl hgap.1 hgap.2 (hpath.stops_blank _) ?_
  rw [Attempt.eat_between]
  exact first_memberOfClass hpath hmember hclosed hr

/-- **A frame is read exactly where one begins.** -/
theorem isSome_frame_iff :
    (frameExpr.first some (.between read rest [])).isSome = true ↔ StartsFrame read rest := by
  constructor
  · intro h
    obtain ⟨r, hr⟩ := Option.isSome_iff_exists.1 h
    rw [frameExpr, first_seq] at hr
    obtain ⟨hstart, hword⟩ := holds_of_first hr
    rw [first_seq] at hword
    obtain ⟨rest', rfl, hblanks⟩ := exists_of_first_literal hword
    rw [first_seq] at hblanks
    obtain ⟨blanks, hgap, rest', rfl, hnames⟩ := exists_text_of_first rfl hblanks
    obtain ⟨path, member, more, hpath, hmember, rfl⟩ := exists_names_of_first hnames
    exact ⟨hstart, blanks, path, member, more, contains_of_mem_several hgap, hpath, hmember, rfl⟩
  · rintro ⟨hstart, blanks, path, member, more, hgap, hpath, hmember, rfl⟩
    obtain ⟨path', member', rest', hpath', hmember', hclosed, htext⟩ :=
      exists_closed more hpath hmember
    rw [htext, first_frame hstart hgap hpath' hmember' hclosed]
    obtain ⟨r, hr, -⟩ := exists_first_source _
    exact Option.isSome_iff_exists.2 ⟨r, hr⟩

end Reading

/-! ### The first frame of a line -/

/-- No blank is a character of a path. -/
theorem IsPath.not_blank {path : List Char} (h : IsPath path) {c : Char} (hc : c ∈ path) :
    CharSet.blank.contains c = false := by
  rcases h.chars c hc with hsegment | rfl
  · rw [isSegmentChar, Bool.not_eq_true', Bool.or_eq_false_iff] at hsegment
    exact hsegment.1
  · decide

/-- No frame that begins ahead of the word `at` goes on behind a blank after that word. -/
theorem ne_append_blank {q gap names s : List Char} {b : Char} (hq : q ≠ [])
    (hgap : ∀ c ∈ gap, CharSet.blank.contains c = true)
    (hnames : ∀ c ∈ names, CharSet.blank.contains c = false)
    (hb : CharSet.blank.contains b = true) :
    'a' :: 't' :: (gap ++ names) ≠ q ++ 'a' :: 't' :: b :: s := by
  intro htext
  have hmem : b ∉ names := fun hmem => absurd (hnames b hmem) (by simp [hb])
  match q with
  | [] => exact hq rfl
  | [c] => exact absurd (List.cons.inj (List.cons.inj htext).2).1 (by decide)
  | c :: d :: q =>
    have hbehind : gap ++ names = q ++ 'a' :: 't' :: b :: s :=
      (List.cons.inj (List.cons.inj htext).2).2
    rcases List.append_eq_append_iff.1 hbehind with ⟨u, -, hrest⟩ | ⟨u, rfl, hrest⟩
    · exact hmem (by simp [hrest])
    · cases u with
      | nil =>
        rw [List.nil_append] at hrest
        exact hmem (by simp [← hrest])
      | cons c u =>
        -- the `at` is no part of the gap
        obtain rfl := (List.cons.inj hrest).1
        exact absurd (hgap 'a' (by simp)) (by decide)

/-- **Whether a frame begins ahead of the word `at` and blanks does not depend on what stands behind
the blanks.** -/
theorem StartsFrame.congr {read q blanks more more' : List Char} (hq : q ≠ [])
    (hgap : IsGap blanks) (h : StartsFrame read (q ++ ("at".toList ++ (blanks ++ more)))) :
    StartsFrame read (q ++ ("at".toList ++ (blanks ++ more'))) := by
  obtain ⟨hstart, gap, path, member, tail, hgap', hpath, hmember, htext⟩ := h
  have hnames := hpath.append (.segment hmember)
  obtain ⟨b, blanks, rfl⟩ := List.exists_cons_of_ne_nil hgap.1
  have hb : CharSet.blank.contains b = true := hgap.2 b List.mem_cons_self
  have hsides : q ++ "at".toList ++ (b :: (blanks ++ more)) =
      "at".toList ++ gap ++ (path ++ '.' :: member) ++ tail := by
    simpa using htext
  -- so the frame ends in front of the blanks
  obtain ⟨s, hs⟩ : ∃ s, q ++ "at".toList = "at".toList ++ gap ++ (path ++ '.' :: member) ++ s := by
    rcases List.append_eq_append_iff.1 hsides with ⟨s, hlong, hrest⟩ | ⟨s, hshort, -⟩
    · cases s with
      | nil => exact ⟨[], by rw [hlong, List.append_nil, List.append_nil]⟩
      | cons c s =>
        obtain rfl := (List.cons.inj hrest).1
        refine absurd ?_ (ne_append_blank (s := s) hq hgap'.2 (fun c hc => hnames.not_blank hc) hb)
        simpa using hlong
    · exact ⟨s, hshort⟩
  refine ⟨hstart, gap, path, member, s ++ b :: (blanks ++ more'), hgap', hpath, hmember, ?_⟩
  rw [← List.append_assoc, hs]
  simp

/-- What stands in front of the class in the first frame of a line: characters of a line, the word
`at` and a gap, and no frame that begins earlier. -/
structure IsOpening (before blanks : List Char) : Prop where
  line : ∀ c ∈ before, lineSet.contains c = true
  word : StartsWord before
  gap : IsGap blanks
  first : ∀ p q more, before = p ++ q → q ≠ [] →
    ¬StartsFrame p (q ++ ("at".toList ++ (blanks ++ more)))

section Line

variable {line before blanks path member rest : List Char} {r : Attempt}

/-- **The first frame of a line is read.** -/
theorem first_stackTrace_of_opening (hopening : IsOpening before blanks) (hpath : IsPath path)
    (hmember : IsSegment member) (hclosed : Closed rest)
    (hsource : sourceExpr.first some (.between (upToMethod before blanks path member) rest
      (namesCaptured before blanks path member)) = some r) :
    stackTraceExpr.first some
      (.between [] (before ++ ("at".toList ++ (blanks ++ (path ++ '.' :: (member ++ rest))))) []) =
        some r := by
  rw [stackTraceExpr_eq, first_seq]
  refine first_skip hopening.line rfl (fun p c q hsplit => ?_) ?_
  · rw [hsplit, List.append_assoc, Attempt.eat_between, List.nil_append]
    refine Option.not_isSome_iff_eq_none.1 fun hsome => ?_
    exact hopening.first p (c :: q) _ hsplit (by simp) (isSome_frame_iff.1 hsome)
  · rw [Attempt.eat_between, List.nil_append,
      first_frame hopening.word hopening.gap hpath hmember hclosed]
    exact hsource

/-- **A line that is read as a frame has a first one.** -/
theorem exists_opening_of_first (h : stackTraceExpr.first some (.between [] line []) = some r) :
    ∃ before blanks path member rest, IsOpening before blanks ∧ IsPath path ∧ IsSegment member ∧
      Closed rest ∧
      line = before ++ ("at".toList ++ (blanks ++ (path ++ '.' :: (member ++ rest)))) ∧
      sourceExpr.first some (.between (upToMethod before blanks path member) rest
        (namesCaptured before blanks path member)) = some r := by
  rw [stackTraceExpr_eq, first_seq] at h
  obtain ⟨before, behind, rfl, hline, hframe, hskipped⟩ := exists_skipped_of_first line h
  rw [List.nil_append] at hframe
  obtain ⟨hword, blanks, path, member, more, hgap, hpath, hmember, rfl⟩ :=
    isSome_frame_iff.1 (Option.isSome_iff_exists.2 ⟨r, hframe⟩)
  obtain ⟨path', member', rest, hpath', hmember', hclosed, htext⟩ :=
    exists_closed more hpath hmember
  rw [htext] at hframe hskipped ⊢
  rw [first_frame hword hgap hpath' hmember' hclosed] at hframe
  refine ⟨before, blanks, path', member', rest, ⟨hline, hword, hgap, ?_⟩, hpath', hmember', hclosed,
    rfl, hframe⟩
  intro p q more' hsplit hq hstarts
  have hnone := hskipped p q hsplit hq
  rw [List.nil_append] at hnone
  have hhere : StartsFrame p
      (q ++ ("at".toList ++ (blanks ++ (path' ++ '.' :: (member' ++ rest))))) :=
    hstarts.congr hq hgap
  have hsome := isSome_frame_iff.2 hhere
  rw [hnone] at hsome
  exact absurd hsome (by simp)

end Line

end Deobfuscation.Template
