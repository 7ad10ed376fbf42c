import MapperGen.Command.Run
import MapperGen.Proofs.Files.FileSystem
import MapperGen.Proofs.Spec.Rejection

/-!
# Runs of the generating command

What one run of the command does to the files and which exit status it has, for every content of the
files, every configuration and every input. The run goes through stages: the configuration, the
input file, its spec, the output file. A failure at a stage leaves the files as they were, and only
the last stage writes, to one place.
-/

namespace MapperGen

open Syntax

variable {σ α β : Type}

/-! ### Stages -/

theorem run_bind_of_run {x : StateM σ α} {f : α → StateM σ β} {s s' : σ} {a : α}
    (h : x.run s = (a, s')) : (x >>= f).run s = (f a).run s' := by
  rw [StateT.run_bind, h]
  rfl

variable [FileAccess (StateM σ)]

/-- The text that a path leads to. -/
def textIn (s : σ) (path : Text) : Except FileFault Text :=
  ((readText path : StateM σ (Except FileFault Text)).run s).1

/-- The file that configures a command: the one that is named, else the default one if it is
there. -/
def configFile? (s : σ) (path : Option Text) : Option Text :=
  match path with
  | some file => some file
  | none =>
    if ((FileAccess.isFile defaultConfigFile : StateM σ Bool).run s).1 then some defaultConfigFile
    else none

/-- The configuration is what the file says, or the default one without a file, and its values are
valid. -/
structure Config.LoadedFrom (s : σ) (path : Option Text) (c : Config) : Prop where
  settings : match configFile? s path with
    | some file => ∃ text, textIn s file = .ok text ∧ Config.read text = some c
    | none => c = {}
  valid : c.fault? = none

/-- The input is the text of the file that is asked for, else preset, else configured, and has the
name of that file. -/
structure Input.LoadedFrom (s : σ) (config : Config) (around : Surroundings) (asked : Option Text)
    (i : Input) : Prop where
  path : config.inputFile? asked around.inputVariable = some i.path
  source : textIn s i.path = .ok i.source
  moduleName : Path.stem? i.path = some i.moduleName

theorem Config.ofFile_eq_ok_iff {path : Text} {r : Except FileFault Text} {c : Config} :
    Config.ofFile path r = .ok c ↔
      (∃ text, r = .ok text ∧ Config.read text = some c) ∧ c.fault? = none := by
  cases r with
  | error fault => simp [Config.ofFile]
  | ok text =>
    simp only [Config.ofFile]
    cases hread : Config.read text with
    | none => simp [hread]
    | some config =>
      simp only [Config.checked]
      cases hfault : config.fault? with
      | none =>
        constructor
        · intro h
          obtain rfl := Except.ok.inj h
          exact ⟨⟨text, rfl, hread⟩, hfault⟩
        · rintro ⟨⟨text', htext, hc⟩, -⟩
          obtain rfl := Except.ok.inj htext
          rw [hread] at hc
          rw [Option.some.inj hc]
      | some fault =>
        constructor
        · intro h
          cases h
        · rintro ⟨⟨text', htext, hc⟩, hvalid⟩
          obtain rfl := Except.ok.inj htext
          rw [hread] at hc
          rw [Option.some.inj hc, hvalid] at hfault
          cases hfault

theorem Config.exitCode_of_ofFile {path : Text} {r : Except FileFault Text} {fault : CommandFault}
    (h : Config.ofFile path r = .error fault) : fault.exitCode = 1 := by
  cases r with
  | error cause =>
    obtain rfl := Except.error.inj h
    rfl
  | ok text =>
    simp only [Config.ofFile, Config.checked] at h
    split at h
    · obtain rfl := Except.error.inj h
      rfl
    · split at h
      · obtain rfl := Except.error.inj h
        rfl
      · cases h

theorem Config.checked_default : Config.checked {} = .ok {} := by
  decide +kernel

variable [FileSystem σ]

theorem readText_run (path : Text) (s : σ) :
    (readText path : StateM σ (Except FileFault Text)).run s = (textIn s path, s) := by
  refine Prod.ext rfl ?_
  exact FileSystem.readFile_state path s

/-- Loading the configuration leaves the files as they are. -/
theorem Config.load_run (path : Option Text) (s : σ) :
    ∃ r, (Config.load path : StateM σ (Except CommandFault Config)).run s = (r, s) ∧
      (∀ c, r = .ok c ↔ Config.LoadedFrom s path c) ∧
      ∀ fault, r = .error fault → fault.exitCode = 1 := by
  have hfile (file : Text) (hpath : configFile? s path = some file) :
      (∀ c, Config.ofFile file (textIn s file) = .ok c ↔ Config.LoadedFrom s path c) ∧
      ∀ fault, Config.ofFile file (textIn s file) = .error fault → fault.exitCode = 1 := by
    refine ⟨fun c => ?_, fun fault h => Config.exitCode_of_ofFile h⟩
    rw [Config.ofFile_eq_ok_iff]
    constructor
    · rintro ⟨htext, hvalid⟩
      exact ⟨by rw [hpath]; exact htext, hvalid⟩
    · rintro ⟨hsettings, hvalid⟩
      rw [hpath] at hsettings
      exact ⟨hsettings, hvalid⟩
  cases path with
  | some file =>
    refine ⟨Config.ofFile file (textIn s file), ?_, hfile file rfl⟩
    simp only [Config.load]
    rw [run_bind_of_run (readText_run file s)]
    rfl
  | none =>
    have hrun : (FileAccess.isFile defaultConfigFile : StateM σ Bool).run s =
        (((FileAccess.isFile defaultConfigFile : StateM σ Bool).run s).1, s) :=
      Prod.ext rfl (FileSystem.isFile_state defaultConfigFile s)
    simp only [Config.load]
    rw [run_bind_of_run hrun]
    cases hthere : ((FileAccess.isFile defaultConfigFile : StateM σ Bool).run s).1 with
    | true =>
      refine ⟨Config.ofFile defaultConfigFile (textIn s defaultConfigFile), ?_,
        hfile defaultConfigFile (by simp [configFile?, hthere])⟩
      rw [if_pos rfl, run_bind_of_run (readText_run defaultConfigFile s)]
      rfl
    | false =>
      have hnone : configFile? s none = none := by simp [configFile?, hthere]
      refine ⟨.ok {}, ?_, fun c => ?_, fun fault h => by cases h⟩
      · rw [if_neg (by simp), Config.checked_default]
        rfl
      · constructor
        · intro h
          obtain rfl := Except.ok.inj h
          exact ⟨by rw [hnone], by decide +kernel⟩
        · rintro ⟨hsettings, -⟩
          rw [hnone] at hsettings
          rw [hsettings]

omit [FileAccess (StateM σ)] [FileSystem σ] in
theorem Input.ofFile_eq_ok_iff {path : Text} {r : Except FileFault Text} {i : Input} :
    Input.ofFile path r = .ok i ↔
      i.path = path ∧ r = .ok i.source ∧ Path.stem? path = some i.moduleName := by
  cases r with
  | error fault => simp [Input.ofFile]
  | ok source =>
    obtain ⟨path', source', moduleName'⟩ := i
    simp only [Input.ofFile, map_eq_ok_iff, moduleNameOf]
    cases Path.stem? path <;> simp [eq_comm, and_comm]

omit [FileAccess (StateM σ)] [FileSystem σ] in
theorem Input.exitCode_of_ofFile {path : Text} {r : Except FileFault Text} {fault : CommandFault}
    (h : Input.ofFile path r = .error fault) : fault.exitCode = 1 := by
  cases r with
  | error cause =>
    obtain rfl := Except.error.inj h
    rfl
  | ok source =>
    rw [Input.ofFile, map_eq_error_iff, moduleNameOf] at h
    split at h
    · cases h
    · obtain rfl := Except.error.inj h
      rfl

/-- Loading the input leaves the files as they are. -/
theorem Input.load_run (config : Config) (around : Surroundings) (asked : Option Text) (s : σ) :
    ∃ r, (Input.load config around asked : StateM σ (Except CommandFault Input)).run s = (r, s) ∧
      (∀ i, r = .ok i ↔ Input.LoadedFrom s config around asked i) ∧
      ∀ fault, r = .error fault → fault.exitCode = 1 := by
  cases hpath : config.inputFile? asked around.inputVariable with
  | none =>
    refine ⟨.error .noInput, ?_, fun i => ?_, fun fault h => ?_⟩
    · simp only [Input.load, Config.resolveInput, hpath]
      rfl
    · constructor
      · intro h
        cases h
      · intro h
        rw [h.path] at hpath
        cases hpath
    · obtain rfl := Except.error.inj h
      rfl
  | some path =>
    refine ⟨Input.ofFile path (textIn s path), ?_, fun i => ?_, fun fault h =>
      Input.exitCode_of_ofFile h⟩
    · simp only [Input.load, Config.resolveInput, hpath]
      rw [run_bind_of_run (readText_run path s)]
      rfl
    · rw [Input.ofFile_eq_ok_iff]
      constructor
      · rintro ⟨rfl, hsource, hname⟩
        exact ⟨hpath, hsource, hname⟩
      · rintro ⟨hpath', hsource, hname⟩
        obtain rfl := Option.some.inj (hpath.symm.trans hpath')
        exact ⟨rfl, hsource, hname⟩

/-! ### Generating -/

omit [FileAccess (StateM σ)] [FileSystem σ] in
theorem Input.generate_of_read {i : Input} {config : Config} {around : Surroundings} {spec : Spec}
    (h : Spec.read i.source i.moduleName = .ok spec) :
    i.generate config around =
      .ok (spec.generate config.generate.imports (config.formatter around.formatter)) := by
  rw [Input.generate, generateSource, h]
  rfl

omit [FileAccess (StateM σ)] [FileSystem σ] in
theorem Input.generate_of_read_error {i : Input} {config : Config} {around : Surroundings}
    {failure : Failure} (h : Spec.read i.source i.moduleName = .error failure) :
    i.generate config around = .error (.rejected failure) := by
  rw [Input.generate, generateSource, h]
  rfl

/-- The run of the generating command on the files in a state. -/
def generateRun (output : Text) (asked configPath : Option Text) (around : Surroundings) (s : σ) :
    Outcome × σ :=
  (Command.run (.generate output asked configPath) around : StateM σ Outcome).run s

variable (output : Text) {asked configPath : Option Text} {around : Surroundings} {s : σ}

/-- Without a configuration and an input the command fails and leaves the files as they are. -/
theorem generateRun_of_not_loaded
    (h : ¬ ∃ config input, Config.LoadedFrom s configPath config ∧
      Input.LoadedFrom s config around asked input) :
    (generateRun output asked configPath around s).1.exitCode = 1 ∧
      (generateRun output asked configPath around s).2 = s := by
  obtain ⟨r, hrun, hok, herror⟩ := Config.load_run configPath s
  rw [generateRun, Command.run, Command.config?, run_bind_of_run hrun]
  cases r with
  | error fault => exact ⟨herror fault rfl, rfl⟩
  | ok config =>
    obtain ⟨r', hrun', hok', herror'⟩ := Input.load_run config around asked s
    cases r' with
    | ok input => exact absurd ⟨config, input, (hok config).mp rfl, (hok' input).mp rfl⟩ h
    | error fault =>
      have hgenerate : (generateFile output asked config around :
          StateM σ (Except CommandFault (Option Text))).run s = (.error fault, s) := by
        rw [generateFile, run_bind_of_run hrun']
        rfl
      simp only [Command.runWith]
      rw [run_bind_of_run hgenerate]
      exact ⟨herror' fault rfl, rfl⟩

/-- With a configuration and an input the rest of the run generates code from the input. -/
theorem generateRun_of_loaded {config : Config} {input : Input}
    (hconfig : Config.LoadedFrom s configPath config)
    (hinput : Input.LoadedFrom s config around asked input) :
    generateRun output asked configPath around s =
      match input.generate config around with
      | .error fault => (.ofFault fault, s)
      | .ok none => (.ofText [], s)
      | .ok (some generated) =>
        match (generated.save (Path.beside input.path output) :
          StateM σ (Except CommandFault Text)).run s with
        | (.error fault, s') => (.ofFault fault, s')
        | (.ok path, s') => (.ofText (generatedLine path), s') := by
  obtain ⟨r, hrun, hok, -⟩ := Config.load_run configPath s
  obtain rfl := (hok config).mpr hconfig
  obtain ⟨r', hrun', hok', -⟩ := Input.load_run config around asked s
  obtain rfl := (hok' input).mpr hinput
  rw [generateRun, Command.run, Command.config?, run_bind_of_run hrun]
  simp only [Command.runWith, generateFile]
  rw [bind_assoc, run_bind_of_run hrun']
  dsimp only
  cases hgenerate : input.generate config around with
  | error fault => rfl
  | ok o =>
    cases o with
    | none => rfl
    | some generated =>
      dsimp only
      cases hsave : (generated.save (Path.beside input.path output) :
          StateM σ (Except CommandFault Text)).run s with
      | mk r s' =>
        rw [bind_assoc, run_bind_of_run hsave]
        cases r <;> rfl

/-! ### Writing -/

/-- How the command ends when the text of what was generated is in the file. -/
def Generated.outcome (g : Generated) (path : Text) : Outcome :=
  match g.fault? with
  | none => .ofText (generatedLine path)
  | some fault => .ofFault (.placeholder path fault)

theorem Generated.exitCode_outcome (g : Generated) (path : Text) :
    (g.outcome path).exitCode = if g.fault? = none then 0 else 5 := by
  rw [outcome]
  cases g.fault? <;> rfl

/-- A run writes what is generated from a spec to a path. Without mappers there is nothing to write,
and the run prints nothing. If the write fails, the exit status is 1 and the files are as they were.
If it succeeds, the place that the path leads to holds the text, all other places are as they were,
and the exit status tells code from a placeholder. -/
structure Spec.WrittenTo (spec : Spec) (config : Config) (around : Surroundings) (path : Text)
    (s : σ) (r : Outcome × σ) : Prop where
  nothing : r = (.ofText [], s) ↔ spec.mappers = []
  failure : ∀ generated fault s',
    spec.generate config.generate.imports (config.formatter around.formatter) = some generated →
    (writeText path generated.text : StateM σ (Except FileFault Unit)).run s = (.error fault, s') →
      r.1.exitCode = 1 ∧ r.2 = s
  success : ∀ generated s',
    spec.generate config.generate.imports (config.formatter around.formatter) = some generated →
    (writeText path generated.text : StateM σ (Except FileFault Unit)).run s = (.ok (), s') →
      r.1.exitCode = (if generated.fault? = none then 0 else 5) ∧ r.2 = s' ∧
      ∃ p, FileSystem.place s path = some p ∧
        FileSystem.content s' p = some (Utf8.encode generated.text) ∧
        ∀ other, other ≠ p → FileSystem.content s' other = FileSystem.content s other

omit [FileSystem σ] in
theorem Generated.save_run_error {g : Generated} {path : Text} {s s' : σ} {fault : FileFault}
    (h : (writeText path g.text : StateM σ (Except FileFault Unit)).run s = (.error fault, s')) :
    (g.save path : StateM σ (Except CommandFault Text)).run s =
      (.error (.unwritableOutput path fault), s') := by
  rw [save, run_bind_of_run h]
  rfl

omit [FileSystem σ] in
theorem Generated.save_run_ok {g : Generated} {path : Text} {s s' : σ}
    (h : (writeText path g.text : StateM σ (Except FileFault Unit)).run s = (.ok (), s')) :
    (g.save path : StateM σ (Except CommandFault Text)).run s =
      (match g.fault? with
        | none => .ok path
        | some fault => .error (.placeholder path fault), s') := by
  rw [save, run_bind_of_run h]
  cases g.fault? <;> rfl

/-- A run that gets as far as writing ends as the write does. -/
theorem generateRun_of_write {s' : σ} {config : Config} {input : Input} {generated : Generated}
    (hconfig : Config.LoadedFrom s configPath config)
    (hinput : Input.LoadedFrom s config around asked input)
    (hgenerate : input.generate config around = .ok (some generated))
    (hwrite : (writeText (Path.beside input.path output) generated.text :
      StateM σ (Except FileFault Unit)).run s = (.ok (), s')) :
    generateRun output asked configPath around s =
      (generated.outcome (Path.beside input.path output), s') := by
  rw [generateRun_of_loaded output hconfig hinput, hgenerate]
  dsimp only
  rw [Generated.save_run_ok hwrite, Generated.outcome]
  cases generated.fault? <;> rfl

theorem Spec.generate_eq_none_iff {spec : Spec} {imports : List Text} {formatter : Formatter} :
    spec.generate imports formatter = none ↔ spec.mappers = [] := by
  rw [Spec.generate, Spec.isEmpty]
  cases spec.mappers <;> simp

/-- A spec that was read from the input is written to the output path. -/
theorem generateRun_of_spec {config : Config} {input : Input} {spec : Spec}
    (hconfig : Config.LoadedFrom s configPath config)
    (hinput : Input.LoadedFrom s config around asked input)
    (hspec : Spec.read input.source input.moduleName = .ok spec) :
    spec.WrittenTo config around (Path.beside input.path output) s
      (generateRun output asked configPath around s) := by
  have hrun := generateRun_of_loaded output hconfig hinput
  rw [Input.generate_of_read hspec] at hrun
  cases hgenerate : spec.generate config.generate.imports (config.formatter around.formatter) with
  | none =>
    rw [hgenerate] at hrun
    refine ⟨?_, ?_, ?_⟩
    · rw [hrun]
      simpa using Spec.generate_eq_none_iff.mp hgenerate
    · intro generated fault s' h
      rw [hgenerate] at h
      cases h
    · intro generated s' h
      rw [hgenerate] at h
      cases h
  | some generated =>
    rw [hgenerate] at hrun
    dsimp only at hrun
    have hmappers : spec.mappers ≠ [] := by
      intro h
      rw [Spec.generate_eq_none_iff.mpr h] at hgenerate
      cases hgenerate
    cases hwrite : (writeText (Path.beside input.path output) generated.text :
        StateM σ (Except FileFault Unit)).run s with
    | mk result s' =>
      cases result with
      | error fault =>
        obtain rfl := FileSystem.writeFile_error _ _ _ _ _ hwrite
        rw [Generated.save_run_error hwrite] at hrun
        refine ⟨?_, ?_, ?_⟩
        · rw [hrun]
          simpa [Outcome.ofFault, Outcome.ofText] using hmappers
        · intro generated' fault' s' h hwrite'
          obtain rfl := Option.some.inj (hgenerate.symm.trans h)
          rw [hwrite] at hwrite'
          rw [hrun]
          exact ⟨rfl, rfl⟩
        · intro generated' s' h hwrite'
          obtain rfl := Option.some.inj (hgenerate.symm.trans h)
          rw [hwrite] at hwrite'
          cases (Prod.mk.inj hwrite').1
      | ok u =>
        have hread : input.generate config around = .ok (some generated) := by
          rw [Input.generate_of_read hspec, hgenerate]
        have houtcome := generateRun_of_write output hconfig hinput hread hwrite
        refine ⟨?_, ?_, ?_⟩
        · rw [houtcome, Generated.outcome]
          cases generated.fault? <;>
            simp [Outcome.ofFault, Outcome.ofText, generatedLine, line, hmappers]
        · intro generated' fault' s'' h hwrite'
          obtain rfl := Option.some.inj (hgenerate.symm.trans h)
          rw [hwrite] at hwrite'
          cases (Prod.mk.inj hwrite').1
        · intro generated' s'' h hwrite'
          obtain rfl := Option.some.inj (hgenerate.symm.trans h)
          rw [hwrite] at hwrite'
          obtain rfl := (Prod.mk.inj hwrite').2
          rw [houtcome]
          exact ⟨generated.exitCode_outcome _, rfl, FileSystem.writeFile_ok _ _ _ _ hwrite⟩

/-- A run that writes leaves the files as they are or changes one place, and the latter only without
a failure before it. -/
theorem Spec.WrittenTo.cases {spec : Spec} {config : Config} {path : Text} {r : Outcome × σ}
    (h : spec.WrittenTo config around path s r) :
    (r.1.exitCode = 0 ∨ r.1.exitCode = 1) ∧ r.2 = s ∨
      (r.1.exitCode = 0 ∨ r.1.exitCode = 5) ∧ ∃ p, FileSystem.place s path = some p ∧
        ∀ other, other ≠ p → FileSystem.content r.2 other = FileSystem.content s other := by
  cases hgenerate : spec.generate config.generate.imports (config.formatter around.formatter) with
  | none =>
    rw [h.nothing.mpr (Spec.generate_eq_none_iff.mp hgenerate)]
    exact .inl ⟨.inl rfl, rfl⟩
  | some generated =>
    cases hwrite : (writeText path generated.text : StateM σ (Except FileFault Unit)).run s with
    | mk result s' =>
      cases result with
      | error fault =>
        obtain ⟨hcode, hstate⟩ := h.failure generated fault s' hgenerate hwrite
        exact .inl ⟨.inr hcode, hstate⟩
      | ok u =>
        obtain ⟨hcode, rfl, p, hp, -, hother⟩ := h.success generated s' hgenerate hwrite
        refine .inr ⟨?_, p, hp, hother⟩
        rw [hcode]
        split <;> simp

/-! ### Classification -/

theorem generateRun_of_failure {config : Config} {input : Input} {failure : Failure}
    (hconfig : Config.LoadedFrom s configPath config)
    (hinput : Input.LoadedFrom s config around asked input)
    (h : Spec.read input.source input.moduleName = .error failure) :
    generateRun output asked configPath around s = (.ofFault (.rejected failure), s) := by
  rw [generateRun_of_loaded output hconfig hinput, Input.generate_of_read_error h]

/-- The exit status and the files behind a run, for a run that began with the files in `s`. A
configuration and an input are loaded or the exit status is 1; then the statuses 2, 3 and 4 stand
for the stages at which the reading of the source ends, and without such a failure the spec of the
source is written. -/
structure Classified (output : Text) (asked configPath : Option Text) (around : Surroundings)
    (s : σ) (r : Outcome × σ) : Prop where
  frame : ∀ p, FileSystem.content r.2 p ≠ FileSystem.content s p → ∃ config input,
    Config.LoadedFrom s configPath config ∧ Input.LoadedFrom s config around asked input ∧
      FileSystem.place s (Path.beside input.path output) = some p
  unchanged : r.1.exitCode ∈ [1, 2, 3, 4] → r.2 = s
  unloaded : (¬ ∃ config input, Config.LoadedFrom s configPath config ∧
    Input.LoadedFrom s config around asked input) → r.1.exitCode = 1
  loaded : ∀ config input, Config.LoadedFrom s configPath config →
    Input.LoadedFrom s config around asked input →
      (r.1.exitCode = 2 ↔ ∀ file, SourceFile.read (withoutMark input.source) ≠ .ok file) ∧
      (r.1.exitCode = 3 ↔ ∃ file, SourceFile.read (withoutMark input.source) = .ok file ∧
        ¬ file.IsWellShaped) ∧
      (r.1.exitCode = 4 ↔ ∃ file, SourceFile.read (withoutMark input.source) = .ok file ∧
        file.IsWellShaped ∧ ¬ file.IsWellSpecified) ∧
      ((∃ file, SourceFile.read (withoutMark input.source) = .ok file ∧ file.IsWellShaped ∧
          file.IsWellSpecified) →
        ∃ spec, Spec.read input.source input.moduleName = .ok spec ∧
          spec.WrittenTo config around (Path.beside input.path output) s r)

/-- The exit status of a run tells the stage at which the reading of the source ended. -/
theorem generateRun_loaded {config : Config} {input : Input}
    (hconfig : Config.LoadedFrom s configPath config)
    (hinput : Input.LoadedFrom s config around asked input) :
    let code := (generateRun output asked configPath around s).1.exitCode
    (code = 2 ↔ ∀ file, SourceFile.read (withoutMark input.source) ≠ .ok file) ∧
      (code = 3 ↔ ∃ file, SourceFile.read (withoutMark input.source) = .ok file ∧
        ¬ file.IsWellShaped) ∧
      (code = 4 ↔ ∃ file, SourceFile.read (withoutMark input.source) = .ok file ∧
        file.IsWellShaped ∧ ¬ file.IsWellSpecified) := by
  dsimp only
  cases hread : SourceFile.read (withoutMark input.source) with
  | error fault =>
    obtain ⟨failure, hfailure, hcode⟩ := Spec.read_of_unparsable input.moduleName hread
    rw [generateRun_of_failure output hconfig hinput hfailure]
    simp [Outcome.ofFault, Outcome.exitCode, CommandFault.exitCode, hcode]
  | ok file =>
    by_cases hshape : file.IsWellShaped
    · by_cases hspec : file.IsWellSpecified
      · obtain ⟨spec, hok⟩ := Spec.read_of_wellSpecified input.moduleName hread hshape hspec
        have hcode : (generateRun output asked configPath around s).1.exitCode ∈ [0, 1, 5] := by
          obtain ⟨h | h, -⟩ | ⟨h | h, -⟩ :=
            (generateRun_of_spec output hconfig hinput hok).cases <;> simp [h]
        simp only [List.mem_cons, List.not_mem_nil, or_false] at hcode
        simp [hshape, hspec]
        omega
      · obtain ⟨failure, hfailure, hcode⟩ :=
          Spec.read_of_misspecified input.moduleName hread hshape hspec
        rw [generateRun_of_failure output hconfig hinput hfailure]
        simp [Outcome.ofFault, Outcome.exitCode, CommandFault.exitCode, hcode, hshape, hspec]
    · obtain ⟨failure, hfailure, hcode⟩ :=
        Spec.read_of_misshapen input.moduleName hread hshape
      rw [generateRun_of_failure output hconfig hinput hfailure]
      simp [Outcome.ofFault, Outcome.exitCode, CommandFault.exitCode, hcode, hshape]

/-- A run ends before the spec of a source is written, or it writes that spec. -/
theorem generateRun_cases (output : Text) (asked configPath : Option Text) (around : Surroundings)
    (s : σ) :
    (generateRun output asked configPath around s).2 = s ∨
      ∃ config input, ∃ spec : Spec, Config.LoadedFrom s configPath config ∧
        Input.LoadedFrom s config around asked input ∧
        spec.WrittenTo config around (Path.beside input.path output) s
          (generateRun output asked configPath around s) := by
  by_cases hloaded : ∃ config input, Config.LoadedFrom s configPath config ∧
      Input.LoadedFrom s config around asked input
  · obtain ⟨config, input, hconfig, hinput⟩ := hloaded
    cases hread : Spec.read input.source input.moduleName with
    | error failure =>
      left
      rw [generateRun_of_failure output hconfig hinput hread]
    | ok spec =>
      exact .inr ⟨config, input, spec, hconfig, hinput,
        generateRun_of_spec output hconfig hinput hread⟩
  · exact .inl (generateRun_of_not_loaded output hloaded).2

/-- Every run of the generating command is classified. -/
theorem generateRun_classified (output : Text) (asked configPath : Option Text)
    (around : Surroundings) (s : σ) :
    Classified output asked configPath around s
      (generateRun output asked configPath around s) := by
  constructor
  case frame =>
    intro p hp
    obtain hstate | ⟨config, input, spec, hconfig, hinput, hwritten⟩ :=
      generateRun_cases output asked configPath around s
    · exact absurd (by rw [hstate]) hp
    · refine ⟨config, input, hconfig, hinput, ?_⟩
      obtain ⟨-, hstate⟩ | ⟨-, place, hplace, hother⟩ := hwritten.cases
      · exact absurd (by rw [hstate]) hp
      · by_cases h : p = place
        · rw [h, hplace]
        · exact absurd (hother p h) hp
  case unchanged =>
    intro hcode
    obtain hstate | ⟨config, input, spec, hconfig, hinput, hwritten⟩ :=
      generateRun_cases output asked configPath around s
    · exact hstate
    · obtain ⟨-, hstate⟩ | ⟨h | h, -⟩ := hwritten.cases
      · exact hstate
      · simp [h] at hcode
      · simp [h] at hcode
  case unloaded =>
    intro h
    exact (generateRun_of_not_loaded output h).1
  case loaded =>
    intro config input hconfig hinput
    obtain ⟨h2, h3, h4⟩ := generateRun_loaded output hconfig hinput
    refine ⟨h2, h3, h4, ?_⟩
    rintro ⟨file, hread, hshape, hspec⟩
    obtain ⟨spec, hok⟩ := Spec.read_of_wellSpecified input.moduleName hread hshape hspec
    exact ⟨spec, hok, generateRun_of_spec output hconfig hinput hok⟩

/-- A store with a file whose marked item is no trait. -/
def storeOfMarkedStruct : Store where
  workingDirectory := []
  files := [([['i']], Utf8.encode "/// +mapwright:mapper\nstruct A;".toList)]

theorem generateRun_classified_markedStruct :
    (generateRun ['o'] (some ['i']) none ⟨none, fun _ _ => .failed []⟩
        storeOfMarkedStruct).1.exitCode = 3 ∧
      (generateRun ['o'] (some ['i']) none ⟨none, fun _ _ => .failed []⟩ storeOfMarkedStruct).2 =
        storeOfMarkedStruct :=
  have h : (generateRun ['o'] (some ['i']) none ⟨none, fun _ _ => .failed []⟩
      storeOfMarkedStruct).1.exitCode = 3 := by decide +kernel
  ⟨h, (generateRun_classified _ _ _ _ _).unchanged (by rw [h]; decide)⟩

end MapperGen
