import Deobfuscation.Regex.ByteSequence
import Deobfuscation.Regex.StateTable
import Deobfuscation.Regex.Tally

/-!
# Automata of sets

A set becomes an automaton of its own, which reads the bytes of one character.  Forward, its
states are built from the last byte to the first, and states with equal transitions are one
state.  Backward, a junction leads to the last bytes of all sequences, and sequences share the
states of the bytes that they begin with.  In both cases a table remembers the states, and what
it has forgotten is built again.

* `Construction` — what is built so far, and the states that are remembered;
* `readForward`, `readBackward` — the states that read sequences of bytes;
* `growSet` — an automaton with that of a set added to it;
* `setBound` — what the automaton of a set consists of at most;
* `growSet_le` — **proved**: no more than that is added to it, whatever is remembered.
-/

namespace Deobfuscation.Regex

/-- What is built so far of an automaton, and the states of the set that are remembered. -/
structure Construction where
  tally : Tally
  table : StateTable

namespace Construction

/-- The state of a key, with so many transitions: the one that is remembered, or a new one,
which is remembered from now on. -/
def reach (key : List Nat) (transitions : Nat) (c : Construction) : Nat × Construction :=
  match c.table.find? key with
  | some state => (state, c)
  | none =>
    (c.tally.states, ⟨c.tally + ⟨1, transitions, 0⟩, c.table.insert key c.tally.states⟩)

theorem reach_le (key : List Nat) (transitions : Nat) (c : Construction) :
    (c.reach key transitions).2.tally ≤ c.tally + ⟨1, transitions, 0⟩ := by
  rw [reach]
  split
  · exact Tally.le_add _ _
  · exact Tally.le_refl _

end Construction

/-! ### Forward -/

/-- The first ranges of sequences, each with what comes after it. -/
def byFirst : List ByteSequence → List ((Nat × Nat) × List ByteSequence)
  | [] => []
  | [] :: sequences => byFirst sequences
  | (first :: rest) :: sequences =>
    match byFirst sequences with
    | (next, rests) :: others =>
      if first = next then (next, rest :: rests) :: others
      else (first, [rest]) :: (next, rests) :: others
    | [] => [(first, [rest])]

/-- Builds the state that reads the sequences, of no more than `bound` bytes, and goes on to a
target, after the states that read what comes after their first bytes.  Its key lists its
transitions, each by its range and by the state it leads to. -/
def readForward (target : Nat) :
    Nat → List ByteSequence → Construction → Nat × Construction
  | 0, _, c => (target, c)
  | bound + 1, sequences, c =>
    let transitions := byFirst sequences
    let (key, c) := transitions.foldl
      (fun (key, c) ((low, high), rests) =>
        let (next, c) :=
          if rests.all List.isEmpty then (target, c) else readForward target bound rests c
        (next :: high :: low :: key, c))
      ([], c)
    c.reach key.reverse transitions.length

/-- The greatest length of an encoding. -/
def encodingLimit : Nat := 4

/-- The last place of the table of forward states. -/
def lastForwardPlace : Nat := 9999

/-- An automaton with the one that reads sequences forward, and the state that it leads to. -/
def growForward (sequences : List ByteSequence) (t : Tally) : Tally :=
  (readForward t.states encodingLimit sequences
    ⟨t + .ofStates 1, .ofLastPlace lastForwardPlace⟩).2.tally

/-! ### Backward -/

/-- Builds the states that read a sequence from its end and go on to a target: the key of a state
is where it leads to, and its range. -/
def readBackward (sequence : ByteSequence) (target : Nat) (c : Construction) :
    Nat × Construction :=
  sequence.foldl (fun (state, c) (low, high) => c.reach [state, low, high] 0) (target, c)

/-- The last place of the table of backward states. -/
def lastBackwardPlace : Nat := 999

/-- An automaton with the one that reads sequences backward: its junction, the state that it leads
to and the states between them. -/
def growBackward (sequences : List ByteSequence) (t : Tally) : Tally :=
  (sequences.foldl (fun c sequence => (readBackward sequence (t.states + 1) c).2)
    ⟨t + ⟨2, 0, sequences.length⟩, .ofLastPlace lastBackwardPlace⟩).tally

/-! ### Sets -/

/-- An automaton with that of a set added to it.  The automaton of a set of ASCII is a state with
a transition for each range, and the state that it leads to. -/
def growSet (direction : Direction) (s : Unicode.Ranges) (t : Tally) : Tally :=
  if s.isAscii then t + ⟨2, s.length, 0⟩
  else
    match direction with
    | .forward => growForward (byteSequences s) t
    | .backward => growBackward (byteSequences s) t

/-- What the automaton of a set consists of at most. -/
def setBound (s : Unicode.Ranges) : Tally :=
  if s.isAscii then ⟨2, s.length, 0⟩
  else
    let count := (byteSequences s).length
    ⟨encodingLimit * count + 2, encodingLimit * count, count⟩

/-! ### No more is added -/

/-- How many sequences there are in groups. -/
def groupedCount (groups : List ((Nat × Nat) × List ByteSequence)) : Nat :=
  groups.foldr (fun group count => group.2.length + count) 0

theorem groupedCount_byFirst_le (sequences : List ByteSequence) :
    groupedCount (byFirst sequences) ≤ sequences.length := by
  fun_induction byFirst sequences <;> simp_all [groupedCount] <;> omega

/-- No group is empty. -/
theorem length_pos_of_mem_byFirst {sequences : List ByteSequence}
    {group : (Nat × Nat) × List ByteSequence} (h : group ∈ byFirst sequences) :
    0 < group.2.length := by
  fun_induction byFirst sequences <;> grind

/-- The bound of the states that read so many sequences of so many bytes. -/
def readBound (bound count : Nat) : Tally := ⟨bound * count + 1, bound * count, 0⟩

theorem readForward_le (target bound : Nat) (sequences : List ByteSequence) (c : Construction) :
    (readForward target bound sequences c).2.tally ≤
      c.tally + readBound bound sequences.length := by
  induction bound generalizing sequences c with
  | zero => exact Tally.le_add _ _
  | succ bound ih =>
    have hfold : ∀ (groups : List ((Nat × Nat) × List ByteSequence)) (key : List Nat)
        (c : Construction), (∀ group ∈ groups, 0 < group.2.length) →
        (groups.foldl (fun (key, c) ((low, high), rests) =>
          let (next, c) :=
            if rests.all List.isEmpty then (target, c) else readForward target bound rests c
          (next :: high :: low :: key, c)) (key, c)).2.tally ≤
          c.tally + ⟨(bound + 1) * groupedCount groups, bound * groupedCount groups, 0⟩ := by
      intro groups
      induction groups with
      | nil => exact fun _ c _ => Tally.le_add _ _
      | cons group groups ihrest =>
        intro key c hgroups
        obtain ⟨⟨low, high⟩, rests⟩ := group
        have hpos : 0 < rests.length := hgroups _ List.mem_cons_self
        have hstep :
            (if rests.all List.isEmpty then (target, c)
              else readForward target bound rests c).2.tally ≤
              c.tally + readBound bound rests.length := by
          split
          · exact Tally.le_add _ _
          · exact ih _ _
        have hrest := ihrest
          ((if rests.all List.isEmpty then (target, c)
            else readForward target bound rests c).1 :: high :: low :: key)
          (if rests.all List.isEmpty then (target, c) else readForward target bound rests c).2
          (fun g hg => hgroups g (List.mem_cons_of_mem _ hg))
        refine Tally.le_trans hrest ?_
        refine Tally.le_trans (Tally.add_le_add hstep (Tally.le_refl _)) ?_
        have hcount : groupedCount (((low, high), rests) :: groups) =
            rests.length + groupedCount groups := by simp [groupedCount]
        have hmore : bound * rests.length + 1 ≤ (bound + 1) * rests.length := by
          rw [Nat.succ_mul]
          omega
        rw [hcount, Tally.add_assoc]
        refine Tally.add_le_add (Tally.le_refl _) (Tally.le_iff.2 ⟨?_, ?_, Nat.le_refl _⟩)
        · simp only [readBound, Tally.states_add, Nat.mul_add]
          omega
        · simp only [readBound, Tally.transitions_add, Nat.mul_add]
          omega
    have hgroups := hfold (byFirst sequences) [] c fun _ => length_pos_of_mem_byFirst
    have hcount := groupedCount_byFirst_le sequences
    have hlength : (byFirst sequences).length ≤ groupedCount (byFirst sequences) := by
      have hall : ∀ group ∈ byFirst sequences, 0 < group.2.length := fun _ =>
        length_pos_of_mem_byFirst
      generalize byFirst sequences = groups at hall
      induction groups with
      | nil => simp
      | cons group groups ihrest =>
        have hfirst := hall _ List.mem_cons_self
        have hothers := ihrest fun g hg => hall g (List.mem_cons_of_mem _ hg)
        simp only [groupedCount, List.foldr_cons, List.length_cons] at hothers ⊢
        omega
    have hstates := Nat.mul_le_mul_left (bound + 1) hcount
    have htransitions := Nat.mul_le_mul_left bound hcount
    rw [readForward]
    refine Tally.le_trans (Construction.reach_le _ _ _) ?_
    refine Tally.le_trans (Tally.add_le_add hgroups (Tally.le_refl _)) ?_
    rw [Tally.add_assoc]
    refine Tally.add_le_add (Tally.le_refl _) (Tally.le_iff.2 ⟨?_, ?_, Nat.le_refl _⟩)
    · simp only [readBound, Tally.states_add]
      omega
    · simp only [readBound, Tally.transitions_add, Nat.succ_mul]
      omega

theorem readBackward_le (sequence : ByteSequence) (target : Nat) (c : Construction) :
    (readBackward sequence target c).2.tally ≤ c.tally + .ofStates sequence.length := by
  rw [readBackward]
  induction sequence generalizing target c with
  | nil => exact Tally.le_add _ _
  | cons range sequence ih =>
    rw [List.foldl_cons]
    refine Tally.le_trans (ih _ _) ?_
    refine Tally.le_trans (Tally.add_le_add (Construction.reach_le _ _ _) (Tally.le_refl _)) ?_
    rw [Tally.add_assoc]
    refine Tally.add_le_add (Tally.le_refl _) (Tally.le_iff.2 ⟨?_, Nat.le_refl _, Nat.le_refl _⟩)
    simp only [Tally.ofStates, Tally.states_add, List.length_cons]
    omega

theorem length_le_of_mem_byteSequences {s : Unicode.Ranges} {sequence : ByteSequence}
    (h : sequence ∈ byteSequences s) : sequence.length ≤ encodingLimit := by
  simp only [byteSequences, List.mem_flatMap] at h
  obtain ⟨_, _, ⟨first, last, count, base⟩, hlength, h⟩ := h
  simp only at h
  split at h
  · rw [length_of_mem_sequencesBetween base count _ _ sequence h]
    simp only [encodingLengths, List.mem_cons, Prod.mk.injEq, List.not_mem_nil, or_false]
      at hlength
    simp only [encodingLimit]
    omega
  · simp at h

theorem growForward_le (sequences : List ByteSequence) (t : Tally) :
    growForward sequences t ≤ t + (.ofStates 1 + readBound encodingLimit sequences.length) := by
  rw [growForward, ← Tally.add_assoc]
  exact readForward_le _ _ _ _

theorem growBackward_le {sequences : List ByteSequence} (t : Tally)
    (h : ∀ sequence ∈ sequences, sequence.length ≤ encodingLimit) :
    growBackward sequences t ≤
      t + (⟨2, 0, sequences.length⟩ + .ofStates (encodingLimit * sequences.length)) := by
  have hfold : ∀ (sequences : List ByteSequence) (c : Construction),
      (∀ sequence ∈ sequences, sequence.length ≤ encodingLimit) →
      (sequences.foldl (fun c sequence => (readBackward sequence (t.states + 1) c).2)
        c).tally ≤ c.tally + .ofStates (encodingLimit * sequences.length) := by
    intro sequences
    induction sequences with
    | nil => exact fun c _ => Tally.le_add _ _
    | cons sequence sequences ih =>
      intro c hlengths
      have hfirst := hlengths _ List.mem_cons_self
      rw [List.foldl_cons]
      refine Tally.le_trans (ih _ fun q hq => hlengths q (List.mem_cons_of_mem _ hq)) ?_
      refine Tally.le_trans (Tally.add_le_add (readBackward_le _ _ _) (Tally.le_refl _)) ?_
      rw [Tally.add_assoc]
      refine Tally.add_le_add (Tally.le_refl _)
        (Tally.le_iff.2 ⟨?_, Nat.le_refl _, Nat.le_refl _⟩)
      simp only [Tally.ofStates, Tally.states_add, List.length_cons, Nat.mul_succ]
      omega
  rw [growBackward, ← Tally.add_assoc]
  exact hfold sequences _ h

/-- **No more is added than the bound of the set.** -/
theorem growSet_le (direction : Direction) (s : Unicode.Ranges) (t : Tally) :
    growSet direction s t ≤ t + setBound s := by
  cases direction <;> rw [growSet, setBound] <;> split
  · exact Tally.le_refl _
  · refine Tally.le_trans (growForward_le (byteSequences s) t)
      (Tally.add_le_add (Tally.le_refl _) (Tally.le_iff.2 ⟨?_, ?_, Nat.zero_le _⟩))
    · simp only [readBound, Tally.ofStates, Tally.states_add]
      omega
    · simp only [readBound, Tally.ofStates, Tally.transitions_add]
      omega
  · exact Tally.le_refl _
  · refine Tally.le_trans (growBackward_le t fun _ => length_le_of_mem_byteSequences)
      (Tally.add_le_add (Tally.le_refl _) (Tally.le_iff.2 ⟨?_, Nat.zero_le _, ?_⟩))
    · simp only [Tally.ofStates, Tally.states_add]
      omega
    · simp only [Tally.ofStates, Tally.links_add]
      omega

end Deobfuscation.Regex
