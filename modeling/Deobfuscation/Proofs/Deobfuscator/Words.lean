import Mathlib.Data.List.Basic
import Deobfuscation.Deobfuscator.Line

/-!
# Words of a line

A text is cut into delimiters and words, and there is only one way to do so: a delimiter is a piece
of its own, and a word goes as far as it can, up to a delimiter or an end of the text.  The sweep
puts the plain name of a class in place of each word that is the obfuscated name of one and leaves
everything else.  So it changes nothing where no word is such a name, and where no plain name has a
delimiter in it, the delimiters are afterwards the same as before.

* `IsMark`, `IsRun`, `CutsInto` — pieces, and a text that is cut into them;
* `Cuts`, `cuts_tokens` — the pieces taken off a text one after the other; **proved**: so its tokens
  are;
* `cutsInto_iff` — **proved**: a text is cut into its tokens, and in no other way;
* `sweep_of_cuts` — **proved**: what the sweep makes of each piece;
* `sweep_pieces` — **proved**: all of it together, and what the sweep leaves.
-/

namespace Deobfuscation

namespace Text

/-! ### Pieces -/

/-- A single delimiter. -/
def IsMark (piece : List Char) : Prop := ∃ c, isDelimiter c = true ∧ piece = [c]

/-- Some characters, none of them a delimiter. -/
def IsRun (piece : List Char) : Prop := piece ≠ [] ∧ ∀ c ∈ piece, isDelimiter c = false

instance (piece : List Char) : Decidable (IsRun piece) :=
  have : Decidable (∀ c ∈ piece, isDelimiter c = false) := List.decidableBAll _ _
  inferInstanceAs (Decidable (piece ≠ [] ∧ ∀ c ∈ piece, isDelimiter c = false))

/-- A text is cut into single delimiters and into runs that go as far as they can. -/
structure CutsInto (s : List Char) (pieces : List (List Char)) : Prop where
  /-- The pieces, one after the other, are the text. -/
  flatten : pieces.flatten = s
  piece : ∀ piece ∈ pieces, IsMark piece ∨ IsRun piece
  /-- The characters beside a run are delimiters. -/
  maximal : ∀ before run after, pieces = before ++ run :: after → IsRun run →
    (∀ c, before.flatten.getLast? = some c → isDelimiter c = true) ∧
      ∀ c, after.flatten.head? = some c → isDelimiter c = true

/-- No delimiter is taken for a run of one character. -/
theorem IsMark.not_isRun {piece : List Char} (h : IsMark piece) : ¬ IsRun piece := by
  obtain ⟨c, hc, rfl⟩ := h
  intro hrun
  exact Bool.false_ne_true ((hrun.2 c List.mem_cons_self).symm.trans hc)

/-- A run begins with a character that is no delimiter. -/
theorem IsRun.exists_cons {run : List Char} (h : IsRun run) :
    ∃ c rest, run = c :: rest ∧ isDelimiter c = false := by
  obtain ⟨c, rest, rfl⟩ := List.exists_cons_of_ne_nil h.1
  exact ⟨c, rest, rfl, h.2 c List.mem_cons_self⟩

/-! ### One piece after the other -/

/-- Pieces are taken off a text: a delimiter, or all characters up to the next one. -/
inductive Cuts : List Char → List (List Char) → Prop
  | nil : Cuts [] []
  | mark {c : Char} {s : List Char} {pieces : List (List Char)} : isDelimiter c = true →
    Cuts s pieces → Cuts (c :: s) ([c] :: pieces)
  | run {run rest : List Char} {pieces : List (List Char)} : IsRun run →
    (∀ c, rest.head? = some c → isDelimiter c = true) → Cuts rest pieces →
    Cuts (run ++ rest) (run :: pieces)

/-- A delimiter in front is a token. -/
theorem tokens_mark {c : Char} (h : isDelimiter c = true) (s : List Char) :
    tokens (c :: s) = .delimiter c :: tokens s := by
  rw [tokens, if_pos h]

/-- A run in front of a delimiter, or at the end, is a token. -/
theorem tokens_run {run rest : List Char} (hrun : IsRun run)
    (hrest : ∀ c, rest.head? = some c → isDelimiter c = true) :
    tokens (run ++ rest) = .word run :: tokens rest := by
  obtain ⟨hne, hchars⟩ := hrun
  induction run with
  | nil => exact absurd rfl hne
  | cons c run ih =>
    obtain ⟨hc, hchars⟩ := List.forall_mem_cons.1 hchars
    rw [List.cons_append, tokens, if_neg (by rw [hc]; exact Bool.false_ne_true)]
    by_cases hlast : run = []
    · -- the run ends here, so what follows is no word
      subst hlast
      rw [List.nil_append]
      cases rest with
      | nil => rfl
      | cons e rest => rw [tokens_mark (hrest e rfl)]
    · rw [ih hlast hchars]

/-- What is taken off a text are its tokens. -/
theorem Cuts.map_text_tokens {s : List Char} {pieces : List (List Char)} (h : Cuts s pieces) :
    (tokens s).map Token.text = pieces := by
  induction h with
  | nil => rfl
  | mark hc _ ih => rw [tokens_mark hc, List.map_cons, ih, Token.text]
  | run hrun hrest _ ih => rw [tokens_run hrun hrest, List.map_cons, ih, Token.text]

/-- Every text can be taken apart. -/
theorem exists_cuts (s : List Char) : ∃ pieces, Cuts s pieces := by
  induction s with
  | nil => exact ⟨[], .nil⟩
  | cons c s ih =>
    obtain ⟨pieces, hpieces⟩ := ih
    cases hc : isDelimiter c with
    | true => exact ⟨[c] :: pieces, .mark hc hpieces⟩
    | false =>
      have hone : IsRun [c] := ⟨List.cons_ne_nil c [], by simpa using hc⟩
      cases hpieces with
      | nil => exact ⟨[[c]], .run hone (fun e he => absurd he (by simp)) .nil⟩
      | @mark e s pieces he hpieces =>
        refine ⟨[c] :: [e] :: pieces, .run hone (fun e' he' => ?_) (.mark he hpieces)⟩
        exact Option.some.inj he' ▸ he
      | @run run rest pieces hrun hrest hpieces =>
        -- the run begins one character earlier
        have hlonger : IsRun (c :: run) :=
          ⟨List.cons_ne_nil c run, List.forall_mem_cons.2 ⟨hc, hrun.2⟩⟩
        exact ⟨(c :: run) :: pieces, .run hlonger hrest hpieces⟩

/-- **The tokens of a text are what is taken off it**, one after the other. -/
theorem cuts_tokens (s : List Char) : Cuts s ((tokens s).map Token.text) := by
  obtain ⟨pieces, hpieces⟩ := exists_cuts s
  rwa [hpieces.map_text_tokens]

/-! ### The only way to cut -/

namespace Cuts

variable {s : List Char} {pieces : List (List Char)}

theorem flatten (h : Cuts s pieces) : pieces.flatten = s := by
  induction h with
  | nil => rfl
  | mark _ _ ih => rw [List.flatten_cons, ih]; rfl
  | run _ _ _ ih => rw [List.flatten_cons, ih]

theorem piece (h : Cuts s pieces) : ∀ piece ∈ pieces, IsMark piece ∨ IsRun piece := by
  induction h with
  | nil => exact fun piece hmem => absurd hmem List.not_mem_nil
  | mark hc _ ih => exact List.forall_mem_cons.2 ⟨Or.inl ⟨_, hc, rfl⟩, ih⟩
  | run hrun _ _ ih => exact List.forall_mem_cons.2 ⟨Or.inr hrun, ih⟩

/-- What stands behind a run begins with a delimiter. -/
theorem behind (h : Cuts s pieces) : ∀ before run after, pieces = before ++ run :: after →
    IsRun run → ∀ c, after.flatten.head? = some c → isDelimiter c = true := by
  induction h with
  | nil => exact fun before run after heq => absurd heq (by simp)
  | mark hc _ ih =>
    intro before run after heq hrun
    cases before with
    | nil => exact absurd ((List.cons.inj heq).1 ▸ hrun) (IsMark.not_isRun ⟨_, hc, rfl⟩)
    | cons piece before => exact ih before run after (List.cons.inj heq).2 hrun
  | run _ hrest hcuts ih =>
    intro before run after heq hrun
    cases before with
    | nil =>
      obtain ⟨-, rfl⟩ := List.cons.inj heq
      rwa [hcuts.flatten]
    | cons piece before => exact ih before run after (List.cons.inj heq).2 hrun

/-- What stands in front of a run ends with a delimiter. -/
theorem inFront (h : Cuts s pieces) {before after : List (List Char)} {run : List Char}
    (heq : pieces = before ++ run :: after) (hrun : IsRun run) :
    ∀ c, before.flatten.getLast? = some c → isDelimiter c = true := by
  intro c hc
  rcases List.eq_nil_or_concat before with rfl | ⟨front, last, rfl⟩
  · exact absurd hc (by simp)
  · rw [List.concat_eq_append, List.append_assoc, List.singleton_append] at heq
    rw [List.concat_eq_append, List.flatten_append, List.flatten_singleton,
      List.getLast?_append] at hc
    rcases h.piece last (by simp [heq]) with ⟨e, he, rfl⟩ | hlast
    · exact Option.some.inj hc ▸ he
    · -- a run right in front of a run would be followed by no delimiter
      obtain ⟨e, rest, rfl, he⟩ := hrun.exists_cons
      have hbehind := h.behind front last _ heq hlast e rfl
      exact absurd hbehind (by rw [he]; exact Bool.false_ne_true)

theorem cutsInto (h : Cuts s pieces) : CutsInto s pieces where
  flatten := h.flatten
  piece := h.piece
  maximal before run after heq hrun :=
    ⟨h.inFront heq hrun, h.behind before run after heq hrun⟩

end Cuts

/-- Behind its first piece a text is cut into the others. -/
theorem CutsInto.tail {s piece : List Char} {pieces : List (List Char)}
    (h : CutsInto s (piece :: pieces)) : CutsInto pieces.flatten pieces where
  flatten := rfl
  piece other hmem := h.piece other (List.mem_cons_of_mem piece hmem)
  maximal before run after heq hrun := by
    obtain ⟨hbefore, hafter⟩ := h.maximal (piece :: before) run after (congrArg _ heq) hrun
    refine ⟨fun c hc => hbefore c ?_, hafter⟩
    rw [List.flatten_cons, List.getLast?_append, hc]
    rfl

theorem CutsInto.cuts {s : List Char} {pieces : List (List Char)} (h : CutsInto s pieces) :
    Cuts s pieces := by
  induction pieces generalizing s with
  | nil => exact h.flatten ▸ .nil
  | cons piece pieces ih =>
    have htext : s = piece ++ pieces.flatten := h.flatten.symm
    rcases h.piece piece List.mem_cons_self with ⟨c, hc, rfl⟩ | hrun
    · exact htext ▸ .mark hc (ih h.tail)
    · exact htext ▸ .run hrun (h.maximal [] piece pieces rfl hrun).2 (ih h.tail)

/-- **A text is cut into its tokens, and in no other way.** -/
theorem cutsInto_iff {s : List Char} {pieces : List (List Char)} :
    CutsInto s pieces ↔ pieces = (tokens s).map Token.text := by
  constructor
  · exact fun h => h.cuts.map_text_tokens.symm
  · rintro rfl
    exact (cuts_tokens s).cutsInto

end Text

namespace Deobfuscator

/-! ### The sweep -/

/-- A run replaced by the class that it is the obfuscated name of; a delimiter stays. -/
def sweepPiece (d : Deobfuscator) (piece : List Char) : List Char :=
  if Text.IsRun piece then (d.table.plainClass (String.ofList piece)).toList else piece

theorem sweepPiece_mark (d : Deobfuscator) {piece : List Char} (h : Text.IsMark piece) :
    d.sweepPiece piece = piece := if_neg h.not_isRun

theorem sweepPiece_run (d : Deobfuscator) {piece : List Char} (h : Text.IsRun piece) :
    d.sweepPiece piece = (d.table.plainClass (String.ofList piece)).toList := if_pos h

/-- **The sweep goes over the pieces of a text.** -/
theorem sweep_of_cuts (d : Deobfuscator) {s : List Char} {pieces : List (List Char)}
    (h : Text.Cuts s pieces) : d.sweep s = pieces.flatMap d.sweepPiece := by
  induction h with
  | nil => rfl
  | mark hc _ ih =>
    rw [List.flatMap_cons, ← ih, d.sweepPiece_mark ⟨_, hc, rfl⟩, sweep, Text.tokens_mark hc]
    rfl
  | run hrun hrest _ ih =>
    rw [List.flatMap_cons, ← ih, d.sweepPiece_run hrun, sweep, Text.tokens_run hrun hrest]
    rfl

/-- A run that is not the obfuscated name of a class stays. -/
theorem sweepPiece_of_unknown (d : Deobfuscator) {piece : List Char}
    (h : Text.IsRun piece → d.table.classes[String.ofList piece]? = none) :
    d.sweepPiece piece = piece := by
  by_cases hrun : Text.IsRun piece
  · rw [d.sweepPiece_run hrun, SymbolTable.plainClass, Std.TreeMap.getD_eq_getD_getElem?, h hrun,
      Option.getD_none, String.toList_ofList]
  · exact if_neg hrun

/-- Where no plain name has a delimiter in it, no delimiter comes into a piece, and none is lost. -/
theorem filter_sweepPiece (d : Deobfuscator)
    (h : ∀ obfuscated plain : String, d.table.classes[obfuscated]? = some plain →
      ∀ c ∈ plain.toList, Text.isDelimiter c = false) (piece : List Char) :
    (d.sweepPiece piece).filter Text.isDelimiter = piece.filter Text.isDelimiter := by
  by_cases hrun : Text.IsRun piece
  · cases hfound : d.table.classes[String.ofList piece]? with
    | none => rw [d.sweepPiece_of_unknown fun _ => hfound]
    | some plain =>
      have hclear : ∀ {s : List Char}, (∀ c ∈ s, Text.isDelimiter c = false) →
          s.filter Text.isDelimiter = [] := fun hs =>
        List.filter_eq_nil_iff.2 fun c hc => by rw [hs c hc]; exact Bool.false_ne_true
      rw [d.sweepPiece_run hrun, SymbolTable.plainClass, Std.TreeMap.getD_eq_getD_getElem?, hfound,
        Option.getD_some, hclear (h _ plain hfound), hclear hrun.2]
  · rw [sweepPiece, if_neg hrun]

/-- **The sweep replaces whole words only.**  A text is cut in the only way there is, and each run
is replaced by the plain name of the class that it names, if it names one, while each delimiter
stays.  So a text stays as it is if no run of it is the obfuscated name of a class; and if no plain
name has a delimiter in it, all delimiters stay, and none is added. -/
theorem sweep_pieces (d : Deobfuscator) (s : List Char) :
    ∃ pieces, (∀ other, Text.CutsInto s other ↔ other = pieces) ∧
      pieces = (Text.tokens s).map Text.Token.text ∧
      d.sweep s = pieces.flatMap d.sweepPiece ∧
      ((∀ piece ∈ pieces, Text.IsRun piece → d.table.classes[String.ofList piece]? = none) →
        d.sweep s = s) ∧
      ((∀ obfuscated plain : String, d.table.classes[obfuscated]? = some plain →
          ∀ c ∈ plain.toList, Text.isDelimiter c = false) →
        (d.sweep s).filter Text.isDelimiter = s.filter Text.isDelimiter) := by
  have hcuts := Text.cuts_tokens s
  have hsweep := d.sweep_of_cuts hcuts
  refine ⟨_, fun other => Text.cutsInto_iff, rfl, hsweep, fun hunknown => ?_, fun hclear => ?_⟩
  · rw [hsweep, List.flatMap_def,
      List.map_congr_left fun piece hmem => d.sweepPiece_of_unknown (hunknown piece hmem),
      List.map_id', hcuts.flatten]
  · conv_rhs => rw [← hcuts.flatten]
    rw [hsweep, List.filter_flatMap, List.filter_flatten, List.flatMap_def]
    congr 1
    exact List.map_congr_left fun piece _ => d.filter_sweepPiece hclear piece

/-- Class names of one character and of several, between delimiters and beside them: the names are
replaced, also where their plain names have further characters than the names had. -/
theorem sweep_pieces_names :
    let table := (SymbolTable.empty.addClass ⟨"p.Foo", "a"⟩).addClass ⟨"p.Größe", "é.b"⟩
    let d : Deobfuscator := ⟨table, default, false, true⟩
    let line := "(a)[é.b],,a.a\u2003a".toList
    d.sweep line = "(p.Foo)[p.Größe],,a.a\u2003p.Foo".toList ∧
      (d.sweep line).filter Text.isDelimiter = line.filter Text.isDelimiter ∧
      d.sweep "(é)a.a,".toList = "(é)a.a,".toList := by
  intro table d line
  have hfound : ∀ obfuscated plain : String, table.classes[obfuscated]? = some plain →
      plain = "p.Größe" ∨ plain = "p.Foo" := by
    intro obfuscated plain h
    rw [show table.classes = ((∅ : Std.TreeMap String String).insert "a" "p.Foo").insert "é.b"
      "p.Größe" from rfl, Std.TreeMap.getElem?_insert, Std.TreeMap.getElem?_insert] at h
    split at h
    · exact Or.inl (Option.some.inj h).symm
    · split at h
      · exact Or.inr (Option.some.inj h).symm
      · simp at h
  obtain ⟨pieces, -, hpieces, hsweep, -, hclear⟩ := d.sweep_pieces line
  obtain ⟨others, -, hothers, -, hunknown, -⟩ := d.sweep_pieces "(é)a.a,".toList
  have hlong : Text.IsRun "p.Größe".toList := by decide +kernel
  have hshort : Text.IsRun "p.Foo".toList := by decide +kernel
  refine ⟨?_, hclear fun obfuscated plain h => ?_, hunknown ?_⟩
  · rw [hsweep, hpieces]
    decide +kernel
  · rcases hfound obfuscated plain h with rfl | rfl
    · exact hlong.2
    · exact hshort.2
  · rw [hothers]
    decide +kernel

end Deobfuscator

end Deobfuscation
