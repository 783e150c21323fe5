import Deobfuscation.CommandLine.Run
import Deobfuscation.Proofs.Deobfuscator.Log
import Deobfuscation.Proofs.Deobfuscator.Transfer

/-!
# The phases of a deobfuscation

A deobfuscation opens the symbol map, reads it to its end, compiles the template, opens the log and
deobfuscates it.  Each phase has a fault or none, which the files and the settings tell whatever
becomes of the other phases.  Where several phases have faults, the first ends the run: its
diagnostics are the only ones, and nothing is put out unless the log itself breaks off, which is
then shown up to its last complete line.

* `Phase`, `Phase.fault?` — the phases, and what is wrong with each of them on its own;
* `Stage`, `Stage.take`, `Runs` — how far a run has come, its next phase, and a run as a whole;
* `Ready`, `Shows` — what the first four phases provide, and what is put out for a log;
* `Stage.Reached.take_next`, `Stage.Reached.take_ended` — **proved**: a phase without a fault leads
  to the next, and a fault ends the run;
* `runs_iff` — **proved**: a run takes the phases up to the first fault and has the result that
  `deobfuscate` tells;
* `run_phases` — **proved**: the exit code, the diagnostics and the output of every run.
-/

namespace Deobfuscation.CommandLine

open ByteSource (ofBytes IsClosedPart)

/-! ### Phases and their faults -/

/-- The phases of a deobfuscation. -/
inductive Phase where
  | openMap
  | readMap
  | compileTemplate
  | openLog
  | deobfuscateLog
  deriving DecidableEq, Repr

/-- Why a file cannot be opened. -/
def openFault? (directory : Directory) (path : String) : Option String :=
  match directory path with
  | .error cause => some cause
  | .ok _ => none

/-- Why a file that can be opened cannot be read to its end. -/
def readFault? (directory : Directory) (path : String) : Option String :=
  match openFile directory path with
  | .error _ => none
  | .ok source => source.failure

namespace Phase

/-- All phases, in their order. -/
def all : List Phase := [openMap, readMap, compileTemplate, openLog, deobfuscateLog]

/-- A phase and those that follow it. -/
def onward (phase : Phase) : List Phase := all.dropWhile (· != phase)

/-- What is wrong with a phase on its own, as it is told. -/
def fault? (directory : Directory) (invocation : Invocation) : Phase → Option String
  | openMap =>
    (openFault? directory invocation.symbolMap).map (failed "open" invocation.symbolMap)
  | readMap => (readFault? directory invocation.symbolMap).map fun cause =>
    failed "load mapping" invocation.symbolMap (failureText (.transfer cause))
  | compileTemplate =>
    if invocation.settings.template.all fun text => (Template.ofText? text.toList).isSome then none
    else some (failed "load mapping" invocation.symbolMap (failureText .invalidTemplate))
  | openLog => (openFault? directory invocation.log).map (failed "open" invocation.log)
  | deobfuscateLog => (readFault? directory invocation.log).map fun cause =>
    failed "retrace" invocation.log (failureText (.transfer cause))

/-- The phases up to the first that has a fault, and that one. -/
def upToFault (fault? : Phase → Option String) : List Phase → List Phase
  | [] => []
  | phase :: phases =>
    if (fault? phase).isSome then [phase] else phase :: upToFault fault? phases

/-- A phase is the first of those onward from it. -/
theorem onward_eq (phase : Phase) : ∃ phases, phase.onward = phase :: phases := by
  cases phase with
  | openMap => exact ⟨_, rfl⟩
  | readMap => exact ⟨_, rfl⟩
  | compileTemplate => exact ⟨_, rfl⟩
  | openLog => exact ⟨_, rfl⟩
  | deobfuscateLog => exact ⟨_, rfl⟩

end Phase

/-! ### One phase after the other -/

/-- How far a deobfuscation has come, with all that it has in hand. -/
inductive Stage where
  | begun
  | mapOpened (source : ByteSource)
  | mapRead (table : SymbolTable)
  | compiled (d : Deobfuscator)
  | logOpened (d : Deobfuscator) (log : ByteSource)

/-- What a phase comes to. -/
inductive Outcome where
  /-- The deobfuscation goes on. -/
  | next (stage : Stage)
  /-- The deobfuscation is over. -/
  | ended (result : Result)

namespace Stage

/-- The phase that is taken next. -/
def phase : Stage → Phase
  | begun => .openMap
  | mapOpened _ => .readMap
  | mapRead _ => .compileTemplate
  | compiled _ => .openLog
  | logOpened _ _ => .deobfuscateLog

/-- Takes the next phase. -/
def take (directory : Directory) (invocation : Invocation) : Stage → Outcome
  | begun =>
    match openFile directory invocation.symbolMap with
    | .ok source => .next (mapOpened source)
    | .error cause => .ended (.failure (failed "open" invocation.symbolMap cause))
  | mapOpened source =>
    match SymbolTable.ofSource source with
    | .ok table => .next (mapRead table)
    | .error cause =>
      .ended (.failure
        (failed "load mapping" invocation.symbolMap (failureText (.transfer cause))))
  | mapRead table =>
    match Deobfuscator.ofTable table invocation.settings with
    | .ok d => .next (compiled d)
    | .error failure =>
      .ended (.failure (failed "load mapping" invocation.symbolMap (failureText failure)))
  | compiled d =>
    match openFile directory invocation.log with
    | .ok log => .next (logOpened d log)
    | .error cause => .ended (.failure (failed "open" invocation.log cause))
  | logOpened d log =>
    match d.transfer log none with
    | (output, none) => .ended ⟨0, output, ""⟩
    | (output, some failure) =>
      .ended ⟨1, output, failed "retrace" invocation.log (failureText failure)⟩

end Stage

/-- A deobfuscation from a stage to its result, with the phases that it takes. -/
inductive Runs (directory : Directory) (invocation : Invocation) :
    Stage → List Phase → Result → Prop
  | ended {stage : Stage} {result : Result} : stage.take directory invocation = .ended result →
      Runs directory invocation stage [stage.phase] result
  | next {stage later : Stage} {phases : List Phase} {result : Result} :
      stage.take directory invocation = .next later →
      Runs directory invocation later phases result →
      Runs directory invocation stage (stage.phase :: phases) result

section Runs

variable {directory : Directory} {invocation : Invocation} {stage later : Stage}
  {phases : List Phase} {result : Result}

/-- How a deobfuscation goes is determined. -/
theorem Runs.unique (h : Runs directory invocation stage phases result) {others : List Phase}
    {other : Result} (hother : Runs directory invocation stage others other) :
    phases = others ∧ result = other := by
  induction h generalizing others with
  | ended htake =>
    cases hother with
    | ended htake' => exact ⟨rfl, Outcome.ended.inj (htake.symm.trans htake')⟩
    | next htake' _ => simp [htake] at htake'
  | next htake _ ih =>
    cases hother with
    | ended htake' => simp [htake] at htake'
    | next htake' hrest =>
      obtain rfl := Outcome.next.inj (htake.symm.trans htake')
      obtain ⟨rfl, rfl⟩ := ih hrest
      exact ⟨rfl, rfl⟩

/-- With the template compiled a deobfuscation goes on to the log. -/
theorem runs_compiled (directory : Directory) (invocation : Invocation) (d : Deobfuscator) :
    ∃ phases, Runs directory invocation (.compiled d) phases
      (deobfuscateLog directory d invocation.log) := by
  rw [deobfuscateLog]
  cases hlog : openFile directory invocation.log with
  | error cause => exact ⟨_, .ended (by rw [Stage.take, hlog])⟩
  | ok log =>
    have hopened : (Stage.compiled d).take directory invocation = .next (.logOpened d log) := by
      rw [Stage.take, hlog]
    dsimp only
    rcases htransfer : d.transfer log none with ⟨output, _ | failure⟩
    · exact ⟨_, .next hopened (.ended (by rw [Stage.take, htransfer]))⟩
    · exact ⟨_, .next hopened (.ended (by rw [Stage.take, htransfer]))⟩

/-- With the symbol map open it is read, and the template is looked at. -/
theorem runs_mapOpened (directory : Directory) (invocation : Invocation) (source : ByteSource) :
    ∃ phases, Runs directory invocation (.mapOpened source) phases
      (match Deobfuscator.ofSource source invocation.settings with
        | .error failure =>
          .failure (failed "load mapping" invocation.symbolMap (failureText failure))
        | .ok d => deobfuscateLog directory d invocation.log) := by
  rw [Deobfuscator.ofSource]
  cases htable : SymbolTable.ofSource source with
  | error cause => exact ⟨_, .ended (by rw [Stage.take, htable])⟩
  | ok table =>
    have hread : (Stage.mapOpened source).take directory invocation = .next (.mapRead table) := by
      rw [Stage.take, htable]
    dsimp only
    cases hd : Deobfuscator.ofTable table invocation.settings with
    | error failure => exact ⟨_, .next hread (.ended (by rw [Stage.take, hd]))⟩
    | ok d =>
      have hcompiled : (Stage.mapRead table).take directory invocation = .next (.compiled d) := by
        rw [Stage.take, hd]
      obtain ⟨phases, hphases⟩ := runs_compiled directory invocation d
      exact ⟨_, .next hread (.next hcompiled hphases)⟩

/-- **Phase after phase a deobfuscation comes to its result.** -/
theorem runs_deobfuscate (directory : Directory) (invocation : Invocation) :
    ∃ phases, Runs directory invocation .begun phases (deobfuscate directory invocation) := by
  rw [deobfuscate]
  cases hmap : openFile directory invocation.symbolMap with
  | error cause => exact ⟨_, .ended (by rw [Stage.take, hmap])⟩
  | ok source =>
    have hbegun : Stage.begun.take directory invocation = .next (.mapOpened source) := by
      rw [Stage.take, hmap]
    obtain ⟨phases, hphases⟩ := runs_mapOpened directory invocation source
    exact ⟨_, .next hbegun hphases⟩

end Runs

/-! ### What the phases provide -/

/-- The table is that of the symbol map. -/
def ReadsMap (directory : Directory) (invocation : Invocation) (table : SymbolTable) : Prop :=
  ∃ source, openFile directory invocation.symbolMap = .ok source ∧
    SymbolTable.ofSource source = .ok table

/-- The deobfuscator is that of the symbol map and the settings, and the log is open. -/
structure Ready (directory : Directory) (invocation : Invocation) (d : Deobfuscator)
    (log : ByteSource) : Prop where
  table : ReadsMap directory invocation d.table
  settings : Deobfuscator.ofTable d.table invocation.settings = .ok d
  log : openFile directory invocation.log = .ok log

/-- What is put out for a log: all that is shown for it if it can be read to its end, else what is
shown for its complete lines. -/
structure Shows (d : Deobfuscator) (log : ByteSource) (output : List Char) : Prop where
  whole : log.failure = none →
    d.transfer log none = (output, none) ∧ output = d.log (Utf8.decodeLossy log.bytes)
  cutOff : log.failure ≠ none →
    ∃ front, IsClosedPart front log.bytes ∧ d.transfer (ofBytes front) none = (output, none) ∧
      output = d.log (Utf8.decodeLossy front)

/-- The stage has in hand what the phases before it provide. -/
def Stage.Reached (directory : Directory) (invocation : Invocation) : Stage → Prop
  | .begun => True
  | .mapOpened source => openFile directory invocation.symbolMap = .ok source
  | .mapRead table => ReadsMap directory invocation table
  | .compiled d => ReadsMap directory invocation d.table ∧
      Deobfuscator.ofTable d.table invocation.settings = .ok d
  | .logOpened d log => Ready directory invocation d log

section Faults

variable {directory : Directory} {invocation : Invocation} {path : String} {source : ByteSource}

theorem openFault?_of_error {cause : String} (h : openFile directory path = .error cause) :
    openFault? directory path = some cause := by
  rw [openFile] at h
  rw [openFault?]
  cases hfile : directory path with
  | error other =>
    rw [hfile] at h
    rw [Except.error.inj h]
  | ok source =>
    rw [hfile] at h
    exact absurd h (by simp [Except.map])

theorem openFault?_of_ok (h : openFile directory path = .ok source) :
    openFault? directory path = none := by
  rw [openFile] at h
  rw [openFault?]
  cases hfile : directory path with
  | error other =>
    rw [hfile] at h
    exact absurd h (by simp [Except.map])
  | ok source => rfl

theorem readFault?_of_ok (h : openFile directory path = .ok source) :
    readFault? directory path = source.failure := by
  rw [readFault?, h]

/-- A symbol map gives a table if it can be read to its end, and its own failure if not. -/
theorem failure_of_ofSource (source : ByteSource) :
    source.failure = match SymbolTable.ofSource source with
      | .ok _ => none
      | .error cause => some cause := by
  rw [SymbolTable.ofSource, SymbolTable.load, SymbolMap.read]
  cases source.failure with
  | none => rfl
  | some cause => rfl

/-- The fault of a template is that the deobfuscator tells. -/
theorem fault?_compileTemplate (directory : Directory) (invocation : Invocation) :
    Phase.compileTemplate.fault? directory invocation =
      match Deobfuscator.templateOf invocation.settings with
      | .ok _ => none
      | .error failure =>
        some (failed "load mapping" invocation.symbolMap (failureText failure)) := by
  rw [Phase.fault?, Deobfuscator.templateOf]
  cases invocation.settings.template with
  | none => rfl
  | some text =>
    cases htext : Template.ofText? text.toList with
    | none => simp [htext]
    | some template => simp [htext]

/-- **A phase that leads on has no fault**, and provides what the next phase needs. -/
theorem Stage.Reached.take_next {stage later : Stage} (h : stage.Reached directory invocation)
    (htake : stage.take directory invocation = .next later) :
    later.Reached directory invocation ∧ stage.phase.fault? directory invocation = none ∧
      stage.phase.onward = stage.phase :: later.phase.onward := by
  cases stage with
  | begun =>
    rw [take] at htake
    split at htake
    · rename_i source hmap
      obtain rfl := Outcome.next.inj htake
      refine ⟨hmap, ?_, rfl⟩
      rw [phase, Phase.fault?, openFault?_of_ok hmap, Option.map_none]
    · cases htake
  | mapOpened source =>
    rw [take] at htake
    split at htake
    · rename_i table htable
      obtain rfl := Outcome.next.inj htake
      refine ⟨⟨source, h, htable⟩, ?_, rfl⟩
      rw [phase, Phase.fault?, readFault?_of_ok h, failure_of_ofSource, htable, Option.map_none]
    · cases htake
  | mapRead table =>
    rw [take, Deobfuscator.ofTable] at htake
    cases htemplate : Deobfuscator.templateOf invocation.settings with
    | error failure =>
      rw [htemplate] at htake
      cases htake
    | ok template =>
      rw [htemplate] at htake
      obtain rfl := Outcome.next.inj htake
      refine ⟨⟨h, ?_⟩, ?_, rfl⟩
      · rw [Deobfuscator.ofTable, htemplate]
      · rw [phase, fault?_compileTemplate, htemplate]
  | compiled d =>
    rw [take] at htake
    split at htake
    · rename_i log hlog
      obtain rfl := Outcome.next.inj htake
      refine ⟨⟨h.1, h.2, hlog⟩, ?_, rfl⟩
      rw [phase, Phase.fault?, openFault?_of_ok hlog, Option.map_none]
    · cases htake
  | logOpened d log =>
    rw [take] at htake
    split at htake
    · cases htake
    · cases htake

/-- What a phase leaves that ends the deobfuscation: its fault alone, unless it is the last, which
always has something to show. -/
inductive Ends (directory : Directory) (invocation : Invocation) : Phase → Result → Prop
  | fault {phase : Phase} {diagnostics : String} :
      phase.fault? directory invocation = some diagnostics → phase ≠ .deobfuscateLog →
      Ends directory invocation phase (.failure diagnostics)
  | shown {d : Deobfuscator} {log : ByteSource} {output : List Char} :
      Ready directory invocation d log → Shows d log output →
      Ends directory invocation .deobfuscateLog
        (match Phase.deobfuscateLog.fault? directory invocation with
          | none => ⟨0, output, ""⟩
          | some diagnostics => ⟨1, output, diagnostics⟩)

theorem ends_logOpened {d : Deobfuscator} {log : ByteSource} {result : Result}
    (h : Ready directory invocation d log)
    (htake : (Stage.logOpened d log).take directory invocation = .ended result) :
    Ends directory invocation .deobfuscateLog result := by
  obtain ⟨bytes, failure⟩ := log
  have hfault : Phase.deobfuscateLog.fault? directory invocation =
      failure.map fun cause => failed "retrace" invocation.log (failureText (.transfer cause)) := by
    rw [Phase.fault?, readFault?_of_ok h.log]
  have hwhole (bytes : List UInt8) :
      d.transfer (ofBytes bytes) none = (d.log (Utf8.decodeLossy bytes), none) := by
    rw [Deobfuscator.transfer_ofBytes, Deobfuscator.log, ← map_decodeLossy_splitAfter,
      List.flatMap_map]
  rw [Stage.take] at htake
  cases failure with
  | none =>
    have hends := Ends.shown h ⟨fun _ => ⟨hwhole bytes, rfl⟩, fun hnone => absurd rfl hnone⟩
    rw [hfault] at hends
    have hlog : d.transfer ⟨bytes, none⟩ none = _ := hwhole bytes
    rw [hlog] at htake
    exact Outcome.ended.inj htake ▸ hends
  | some cause =>
    obtain ⟨front, opened, rfl, hfront, hopened⟩ := ByteSource.exists_append_opened bytes
    have hends := Ends.shown h ⟨fun hnone => absurd hnone (by simp), fun _ =>
      ⟨front, ByteSource.isClosedPart_append hfront hopened, hwhole front, rfl⟩⟩
    rw [hfault] at hends
    rw [Deobfuscator.transfer_failing hfront hopened, hwhole] at htake
    exact Outcome.ended.inj htake ▸ hends

/-- **A phase that does not lead on ends the deobfuscation with its fault**, or is the last. -/
theorem Stage.Reached.take_ended {stage : Stage} {result : Result}
    (h : stage.Reached directory invocation)
    (htake : stage.take directory invocation = .ended result) :
    Ends directory invocation stage.phase result := by
  cases stage with
  | begun =>
    rw [take] at htake
    split at htake
    · cases htake
    · rename_i cause hmap
      obtain rfl := Outcome.ended.inj htake
      exact .fault (by rw [phase, Phase.fault?, openFault?_of_error hmap, Option.map_some])
        (show Phase.openMap ≠ .deobfuscateLog by decide)
  | mapOpened source =>
    rw [take] at htake
    split at htake
    · cases htake
    · rename_i cause htable
      obtain rfl := Outcome.ended.inj htake
      refine .fault ?_ (show Phase.readMap ≠ .deobfuscateLog by decide)
      rw [phase, Phase.fault?, readFault?_of_ok h, failure_of_ofSource, htable, Option.map_some]
  | mapRead table =>
    rw [take, Deobfuscator.ofTable] at htake
    cases htemplate : Deobfuscator.templateOf invocation.settings with
    | error failure =>
      rw [htemplate] at htake
      obtain rfl := Outcome.ended.inj htake
      refine .fault ?_ (show Phase.compileTemplate ≠ .deobfuscateLog by decide)
      rw [phase, fault?_compileTemplate, htemplate]
    | ok template =>
      rw [htemplate] at htake
      cases htake
  | compiled d =>
    rw [take] at htake
    split at htake
    · cases htake
    · rename_i cause hlog
      obtain rfl := Outcome.ended.inj htake
      exact .fault (by rw [phase, Phase.fault?, openFault?_of_error hlog, Option.map_some])
        (show Phase.openLog ≠ .deobfuscateLog by decide)
  | logOpened d log => exact ends_logOpened h htake

end Faults

/-! ### The result of a run -/

/-- What a deobfuscation leaves that takes the phases up to the first fault. -/
structure Leaves (directory : Directory) (invocation : Invocation) (phases : List Phase)
    (result : Result) : Prop where
  success : result.exitCode = 0 ↔ ∀ phase ∈ phases, phase.fault? directory invocation = none
  exitCode : result.exitCode = 0 ∨ result.exitCode = 1
  diagnostics :
    result.diagnostics = (phases.findSome? (Phase.fault? directory invocation)).getD ""
  silent : (∃ phase ∈ phases, phase ≠ .deobfuscateLog ∧
    phase.fault? directory invocation ≠ none) → result.output = []
  shown : (∀ phase ∈ phases, phase ≠ .deobfuscateLog →
    phase.fault? directory invocation = none) →
      ∃ d log, Ready directory invocation d log ∧ Shows d log result.output

section Results

variable {directory : Directory} {invocation : Invocation} {phase : Phase} {phases : List Phase}
  {result : Result}

/-- A phase without a fault leaves nothing. -/
theorem Leaves.cons (h : Leaves directory invocation phases result)
    (hfault : phase.fault? directory invocation = none) :
    Leaves directory invocation (phase :: phases) result where
  success := by rw [h.success, List.forall_mem_cons, and_iff_right hfault]
  exitCode := h.exitCode
  diagnostics := by rw [h.diagnostics, List.findSome?_cons, hfault]
  silent := by
    rintro ⟨other, hmem, hother, hsome⟩
    rcases List.mem_cons.1 hmem with rfl | hmem
    · exact absurd hfault hsome
    · exact h.silent ⟨other, hmem, hother, hsome⟩
  shown hnone := h.shown fun other hmem => hnone other (List.mem_cons_of_mem _ hmem)

/-- A fault counts before those of the phases that follow. -/
theorem leaves_failure {diagnostics : String}
    (hfault : phase.fault? directory invocation = some diagnostics)
    (hphase : phase ≠ .deobfuscateLog) :
    Leaves directory invocation (phase :: phases) (.failure diagnostics) where
  success := by
    refine iff_of_false Nat.one_ne_zero fun hnone => ?_
    rw [hnone phase List.mem_cons_self] at hfault
    exact absurd hfault (by simp)
  exitCode := .inr rfl
  diagnostics := by
    rw [List.findSome?_cons, hfault]
    rfl
  silent _ := rfl
  shown hnone := by
    rw [hnone phase List.mem_cons_self hphase] at hfault
    exact absurd hfault (by simp)

theorem leaves_shown {d : Deobfuscator} {log : ByteSource} {output : List Char}
    (hready : Ready directory invocation d log) (hshows : Shows d log output) :
    Leaves directory invocation [.deobfuscateLog]
      (match Phase.deobfuscateLog.fault? directory invocation with
        | none => ⟨0, output, ""⟩
        | some diagnostics => ⟨1, output, diagnostics⟩) := by
  cases hfault : Phase.deobfuscateLog.fault? directory invocation with
  | none =>
    refine ⟨iff_of_true rfl ?_, .inl rfl, ?_, ?_, fun _ => ⟨d, log, hready, hshows⟩⟩
    · rwa [List.forall_mem_singleton]
    · rw [List.findSome?_singleton, hfault]
      rfl
    · rintro ⟨phase, hmem, hphase, -⟩
      exact absurd (List.mem_singleton.1 hmem) hphase
  | some diagnostics =>
    refine ⟨iff_of_false Nat.one_ne_zero ?_, .inr rfl, ?_, ?_, fun _ => ⟨d, log, hready, hshows⟩⟩
    · rw [List.forall_mem_singleton, hfault]
      exact Option.some_ne_none diagnostics
    · rw [List.findSome?_singleton, hfault]
      rfl
    · rintro ⟨phase, hmem, hphase, -⟩
      exact absurd (List.mem_singleton.1 hmem) hphase

/-- The phase that ends a deobfuscation is the last that is taken, and what it leaves is the
result. -/
theorem Ends.leaves (h : Ends directory invocation phase result) :
    [phase] = Phase.upToFault (Phase.fault? directory invocation) phase.onward ∧
      Leaves directory invocation phase.onward result := by
  cases h with
  | fault hfault hphase =>
    obtain ⟨phases, hphases⟩ := phase.onward_eq
    rw [hphases, Phase.upToFault, hfault]
    exact ⟨rfl, leaves_failure hfault hphase⟩
  | shown hready hshows =>
    refine ⟨?_, leaves_shown hready hshows⟩
    show _ = (if _ then _ else _)
    split
    · rfl
    · rfl

/-- **From every stage that is reached a deobfuscation takes the phases up to the first fault**, and
its result is that of the phases from there on. -/
theorem Runs.leaves {stage : Stage} (h : Runs directory invocation stage phases result)
    (hreached : stage.Reached directory invocation) :
    phases = Phase.upToFault (Phase.fault? directory invocation) stage.phase.onward ∧
      Leaves directory invocation stage.phase.onward result := by
  induction h with
  | ended htake => exact (hreached.take_ended htake).leaves
  | next htake _ ih =>
    obtain ⟨hlater, hfault, honward⟩ := hreached.take_next htake
    obtain ⟨rfl, hleaves⟩ := ih hlater
    rw [honward, Phase.upToFault, hfault]
    exact ⟨rfl, hleaves.cons hfault⟩

/-- **A deobfuscation takes the phases up to the first fault**, and has the result that
`deobfuscate` tells. -/
theorem runs_iff {outcome : Result} :
    Runs directory invocation .begun phases outcome ↔
      phases = Phase.upToFault (Phase.fault? directory invocation) Phase.all ∧
        outcome = deobfuscate directory invocation := by
  obtain ⟨taken, hruns⟩ := runs_deobfuscate directory invocation
  obtain ⟨rfl, -⟩ := hruns.leaves trivial
  constructor
  · exact fun h => h.unique hruns
  · rintro ⟨rfl, rfl⟩
    exact hruns

/-- What a deobfuscation leaves. -/
theorem leaves_deobfuscate (directory : Directory) (invocation : Invocation) :
    Leaves directory invocation Phase.all (deobfuscate directory invocation) := by
  obtain ⟨taken, hruns⟩ := runs_deobfuscate directory invocation
  exact (hruns.leaves trivial).2

end Results

/-- **The phases of the command line**: arguments that ask for a deobfuscation have the symbol map
opened and read, the template compiled, the log opened and deobfuscated, in this order and up to the
first fault.  The exit code is zero exactly if no phase has a fault, the diagnostics are those of
the first fault, and nothing is put out unless the first four phases have none; then it is what the
library shows for the log, or for its complete lines if it breaks off. -/
theorem run_phases {arguments : List String} {invocation : Invocation}
    (h : Command.ofArguments arguments = .deobfuscate invocation) (directory : Directory) :
    (∀ phases outcome, Runs directory invocation .begun phases outcome ↔
      phases = Phase.upToFault (Phase.fault? directory invocation) Phase.all ∧
        outcome = (Command.ofArguments arguments).run directory) ∧
      Leaves directory invocation Phase.all ((Command.ofArguments arguments).run directory) := by
  rw [h]
  exact ⟨fun _ _ => runs_iff, leaves_deobfuscate directory invocation⟩

/-- A symbol map that breaks off, a template that is none and a log that is missing. -/
theorem run_phases_faults :
    let arguments := ["--regex", "(", "map.txt", "log.txt"]
    let directory : Directory := fun path =>
      if path = "map.txt" then .ok ⟨"A -> a:\n".toUTF8.toList, some "read failed"⟩
      else .error "not found"
    let invocation : Invocation := ⟨⟨false, false, some "("⟩, "map.txt", "log.txt"⟩
    let diagnostics :=
      "error: failed to load mapping map.txt: I/O error: read failed: read failed\n"
    Command.ofArguments arguments = .deobfuscate invocation ∧
      Runs directory invocation .begun [.openMap, .readMap] (.failure diagnostics) ∧
      Phase.all.map (Phase.fault? directory invocation) =
        [none, some diagnostics,
          some "error: failed to load mapping map.txt: invalid frame pattern\n",
          some "error: failed to open log.txt: not found\n", none] ∧
      (Command.ofArguments arguments).run directory = .failure diagnostics := by
  intro arguments directory invocation diagnostics
  have harguments : Command.ofArguments arguments = .deobfuscate invocation := by decide +kernel
  have hfaults : Phase.all.map (Phase.fault? directory invocation) =
      [none, some diagnostics,
        some "error: failed to load mapping map.txt: invalid frame pattern\n",
        some "error: failed to open log.txt: not found\n", none] := by
    decide +kernel
  have hphases : Phase.upToFault (Phase.fault? directory invocation) Phase.all =
      [.openMap, .readMap] := by
    decide +kernel
  have hresult : (Command.ofArguments arguments).run directory = .failure diagnostics := by
    decide +kernel
  obtain ⟨hruns, -⟩ := run_phases harguments directory
  exact ⟨harguments, (hruns _ _).2 ⟨hphases.symm, hresult.symm⟩, hfaults, hresult⟩

end Deobfuscation.CommandLine
