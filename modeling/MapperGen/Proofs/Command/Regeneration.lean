import MapperGen.Proofs.Command.GenerateRun
import MapperGen.Proofs.Files.FileMap

/-!
# Repeated runs

The generating command may be run again and again: if it writes neither its input nor its
configuration, the first run brings the files into a state that further runs, and runs of the
command that prints specs between them, do not change, and each run ends as the first one did. What
carries this is that a run reads the same configuration and input in every state that differs from
the first one at the place of the output alone.
-/

namespace MapperGen

open Utf8 (Bytes)

variable {σ : Type} [FileAccess (StateM σ)]

/-! ### Printing specs -/

/-- The run of the command that prints a spec, on the files in a state. -/
def describeRun (asked configPath : Option Text) (around : Surroundings) (s : σ) : Outcome × σ :=
  (Command.run (.spec asked configPath) around : StateM σ Outcome).run s

/-- Printing a spec leaves the files as they are. -/
theorem describeRun_state [FileSystem σ] (asked configPath : Option Text) (around : Surroundings)
    (s : σ) : (describeRun asked configPath around s).2 = s := by
  obtain ⟨r, hconfig, -⟩ := Config.load_run configPath s
  rw [describeRun, Command.run, Command.config?, run_bind_of_run hconfig]
  cases r with
  | error fault => rfl
  | ok config =>
    obtain ⟨r, hinput, -⟩ := Input.load_run config around asked s
    simp only [Command.runWith, describeFile]
    rw [bind_assoc, run_bind_of_run hinput]
    cases r with
    | error fault => rfl
    | ok input =>
      dsimp only
      cases Spec.read input.source input.moduleName <;> rfl

/-! ### Writing -/

/-- A run leaves the files as they are, or it loads a configuration and an input and writes what
they generate. -/
theorem generateRun_writes [FileSystem σ] (output : Text) (asked configPath : Option Text)
    (around : Surroundings) (s : σ) :
    (generateRun output asked configPath around s).2 = s ∨
      ∃ config input generated, Config.LoadedFrom s configPath config ∧
        Input.LoadedFrom s config around asked input ∧
        input.generate config around = .ok (some generated) ∧
        (writeText (Path.beside input.path output) generated.text :
          StateM σ (Except FileFault Unit)).run s =
          (.ok (), (generateRun output asked configPath around s).2) := by
  by_cases hloaded : ∃ config input, Config.LoadedFrom s configPath config ∧
      Input.LoadedFrom s config around asked input
  · obtain ⟨config, input, hconfig, hinput⟩ := hloaded
    have hrun := generateRun_of_loaded output hconfig hinput
    cases hgenerate : input.generate config around with
    | error fault =>
      rw [hgenerate] at hrun
      exact .inl (by rw [hrun])
    | ok o =>
      cases o with
      | none =>
        rw [hgenerate] at hrun
        exact .inl (by rw [hrun])
      | some generated =>
        cases hwrite : (writeText (Path.beside input.path output) generated.text :
            StateM σ (Except FileFault Unit)).run s with
        | mk result s' =>
          cases result with
          | error fault =>
            obtain rfl := FileSystem.writeFile_error _ _ _ _ _ hwrite
            rw [hgenerate] at hrun
            dsimp only at hrun
            rw [Generated.save_run_error hwrite] at hrun
            exact .inl (by rw [hrun])
          | ok u =>
            rw [generateRun_of_write output hconfig hinput hgenerate hwrite]
            exact .inr ⟨config, input, generated, hconfig, hinput, hgenerate, hwrite⟩
  · exact .inl (generateRun_of_not_loaded output hloaded).2

/-! ### Runs one after another -/

/-- The states that runs lead to: runs of one generating command, and between them runs that print
any specs. -/
inductive RunsTo (output : Text) (asked configPath : Option Text) (around : Surroundings) (s : σ) :
    σ → Prop
  | start : RunsTo output asked configPath around s s
  | generate {t : σ} (h : RunsTo output asked configPath around s t) :
      RunsTo output asked configPath around s (generateRun output asked configPath around t).2
  | describe {t : σ} (h : RunsTo output asked configPath around s t)
      (asked' configPath' : Option Text) (around' : Surroundings) :
      RunsTo output asked configPath around s (describeRun asked' configPath' around' t).2

/-- What one run of the generating command keeps, runs one after another keep. -/
theorem RunsTo.invariant [FileSystem σ] {output : Text} {asked configPath : Option Text}
    {around : Surroundings} {s t : σ} {I : σ → Prop}
    (hstep : ∀ t, I t → I (generateRun output asked configPath around t).2)
    (h : RunsTo output asked configPath around s t) (hs : I s) : I t := by
  induction h with
  | start => exact hs
  | generate _ ih => exact hstep _ ih
  | describe _ asked' configPath' around' ih => rwa [describeRun_state]

variable [FileMap σ]

/-! ### States that differ at one place -/

/-- The states agree in all files but the one at a place, and in where paths lead. -/
structure AgreeOff (p : Place) (s t : σ) : Prop where
  resolve : ∀ path, FileMap.resolve t path = FileMap.resolve s path
  content : ∀ q, q ≠ p → FileSystem.content t q = FileSystem.content s q

theorem textIn_eq_ok_iff {s : σ} {path text : Text} :
    textIn s path = .ok text ↔ ∃ p bytes, FileMap.resolve s path = some p ∧
      FileSystem.content s p = some bytes ∧ Utf8.decode bytes = .ok text := by
  have htext (r : Except FileFault Bytes) :
      textOf r = .ok text ↔ ∃ bytes, r = .ok bytes ∧ Utf8.decode bytes = .ok text := by
    cases r with
    | error fault => simp [textOf]
    | ok bytes => cases hdecode : Utf8.decode bytes <;> simp [textOf, hdecode]
  refine (htext _).trans ⟨?_, ?_⟩
  · rintro ⟨bytes, hread, hdecode⟩
    obtain ⟨p, hresolve, hcontent⟩ := (FileMap.readFile_eq_ok_iff path s bytes).mp hread
    exact ⟨p, bytes, hresolve, hcontent, hdecode⟩
  · rintro ⟨p, bytes, hresolve, hcontent, hdecode⟩
    exact ⟨bytes, (FileMap.readFile_eq_ok_iff path s bytes).mpr ⟨p, hresolve, hcontent⟩, hdecode⟩

/-- A path that leads elsewhere leads to the same text. -/
theorem AgreeOff.textIn_eq_ok {p : Place} {s t : σ} (h : AgreeOff p s t) {path text : Text}
    (hpath : FileMap.resolve s path ≠ some p) (htext : textIn s path = .ok text) :
    textIn t path = .ok text := by
  obtain ⟨q, bytes, hresolve, hcontent, hdecode⟩ := textIn_eq_ok_iff.mp htext
  have hq : q ≠ p := by
    rintro rfl
    exact hpath hresolve
  rw [← h.resolve] at hresolve
  rw [← h.content q hq] at hcontent
  exact textIn_eq_ok_iff.mpr ⟨q, bytes, hresolve, hcontent, hdecode⟩

theorem AgreeOff.configFile?_eq {p : Place} {s t : σ} (h : AgreeOff p s t) {path : Option Text}
    (hpath : FileMap.resolve s (path.getD defaultConfigFile) ≠ some p) :
    configFile? t path = configFile? s path := by
  cases path with
  | some file => rfl
  | none =>
    have hthere : (∃ q, FileMap.resolve t defaultConfigFile = some q ∧
          (FileSystem.content t q).isSome) ↔
        ∃ q, FileMap.resolve s defaultConfigFile = some q ∧ (FileSystem.content s q).isSome := by
      rw [h.resolve]
      refine exists_congr fun q => and_congr_right fun hq => ?_
      rw [h.content q (by rintro rfl; exact hpath hq)]
    rw [configFile?, configFile?]
    simp only [FileMap.isFile_iff, hthere]

omit [FileMap σ] in
theorem eq_of_configFile? {s : σ} {path : Option Text} {file : Text}
    (h : configFile? s path = some file) : file = path.getD defaultConfigFile := by
  cases path with
  | some named => exact (Option.some.inj h).symm
  | none =>
    rw [configFile?] at h
    split at h
    · exact (Option.some.inj h).symm
    · cases h

theorem AgreeOff.config_loadedFrom {p : Place} {s t : σ} (h : AgreeOff p s t) {path : Option Text}
    {config : Config} (hpath : FileMap.resolve s (path.getD defaultConfigFile) ≠ some p)
    (hconfig : Config.LoadedFrom s path config) : Config.LoadedFrom t path config := by
  refine ⟨?_, hconfig.valid⟩
  have hsettings := hconfig.settings
  rw [h.configFile?_eq hpath]
  cases hfile : configFile? s path with
  | none => rwa [hfile] at hsettings
  | some file =>
    rw [hfile] at hsettings
    obtain ⟨text, htext, hread⟩ := hsettings
    rw [← eq_of_configFile? hfile] at hpath
    exact ⟨text, h.textIn_eq_ok hpath htext, hread⟩

theorem AgreeOff.input_loadedFrom {p : Place} {s t : σ} (h : AgreeOff p s t) {config : Config}
    {around : Surroundings} {asked : Option Text} {input : Input}
    (hpath : FileMap.resolve s input.path ≠ some p)
    (hinput : Input.LoadedFrom s config around asked input) :
    Input.LoadedFrom t config around asked input :=
  ⟨hinput.path, h.textIn_eq_ok hpath hinput.source, hinput.moduleName⟩

/-! ### Writing again -/

/-- The file that a path leads to was written, and holds a text; all other files are as they were in
another state. -/
structure Settled (path text : Text) (p : Place) (s t : σ) : Prop where
  agree : AgreeOff p s t
  content : FileSystem.content t p = some (Utf8.encode text)
  written : ∃ before, (writeText path text : StateM σ (Except FileFault Unit)).run before =
    (.ok (), t)

theorem Settled.content_eq {path text : Text} {p : Place} {s t t' : σ}
    (h : Settled path text p s t) (h' : Settled path text p s t') (q : Place) :
    FileSystem.content t q = FileSystem.content t' q := by
  by_cases hq : q = p
  · rw [hq, h.content, h'.content]
  · rw [h.agree.content q hq, h'.agree.content q hq]

/-- A write that succeeds in a state that agrees with another one settles it. -/
theorem AgreeOff.settled {path text : Text} {p : Place} {s t t' : σ} (h : AgreeOff p s t)
    (hpath : FileMap.resolve s path = some p)
    (hwrite : (writeText path text : StateM σ (Except FileFault Unit)).run t = (.ok (), t')) :
    Settled path text p s t' := by
  obtain ⟨q, hplace, hwritten, hothers⟩ :=
    FileSystem.writeFile_ok path (Utf8.encode text) t t' hwrite
  obtain rfl : p = q := by
    have hresolve := FileMap.resolve_of_place path t q hplace
    rw [h.resolve, hpath] at hresolve
    exact Option.some.inj hresolve
  refine ⟨⟨fun other => ?_, fun q hq => ?_⟩, hwritten, t, hwrite⟩
  · rw [FileMap.resolve_of_writeFile path _ t t' hwrite other, h.resolve]
  · rw [hothers q hq, h.content q hq]

theorem settled_of_writeText {path text : Text} {s s' : σ}
    (hwrite : (writeText path text : StateM σ (Except FileFault Unit)).run s = (.ok (), s')) :
    ∃ p, FileMap.resolve s path = some p ∧ Settled path text p s s' := by
  obtain ⟨p, hplace, -⟩ := FileSystem.writeFile_ok path (Utf8.encode text) s s' hwrite
  have hpath := FileMap.resolve_of_place path s p hplace
  have hagree : AgreeOff p s s := ⟨fun _ => rfl, fun _ _ => rfl⟩
  exact ⟨p, hpath, hagree.settled hpath hwrite⟩

/-! ### Stability -/

/-- The place that the output path leads to is neither that of the input nor that of the file that
configures the command, whether or not this file is there. -/
def OutputApart (output : Text) (asked configPath : Option Text) (around : Surroundings) (s : σ) :
    Prop :=
  ∀ config input, Config.LoadedFrom s configPath config →
    Input.LoadedFrom s config around asked input →
      ∀ p, FileMap.resolve s (Path.beside input.path output) = some p →
        FileMap.resolve s input.path ≠ some p ∧
          FileMap.resolve s (configPath.getD defaultConfigFile) ≠ some p

/-- A run in a settled state ends as the run that wrote, and the state is settled after it. -/
theorem Settled.generateRun {output : Text} {asked configPath : Option Text}
    {around : Surroundings} {s t : σ} {config : Config} {input : Input} {generated : Generated}
    {p : Place} (h : Settled (Path.beside input.path output) generated.text p s t)
    (hpath : FileMap.resolve s (Path.beside input.path output) = some p)
    (hinputPath : FileMap.resolve s input.path ≠ some p)
    (hconfigPath : FileMap.resolve s (configPath.getD defaultConfigFile) ≠ some p)
    (hconfig : Config.LoadedFrom s configPath config)
    (hinput : Input.LoadedFrom s config around asked input)
    (hgenerate : input.generate config around = .ok (some generated)) :
    ∃ t', MapperGen.generateRun output asked configPath around t =
        (generated.outcome (Path.beside input.path output), t') ∧
      Settled (Path.beside input.path output) generated.text p s t' := by
  obtain ⟨before, hbefore⟩ := h.written
  obtain ⟨t', hwrite⟩ := FileMap.writeFile_again _ _ before t hbefore
  exact ⟨t', generateRun_of_write output (h.agree.config_loadedFrom hconfigPath hconfig)
    (h.agree.input_loadedFrom hinputPath hinput) hgenerate hwrite, h.agree.settled hpath hwrite⟩

/-- After one run of the generating command, further runs of it end as the first one did and leave
every file as it is, in any order with runs that print specs; these never change anything. -/
theorem generateRun_stable (output : Text) (asked configPath : Option Text)
    (around : Surroundings) (s : σ) (h : OutputApart output asked configPath around s) :
    (∀ t, RunsTo output asked configPath around
        (generateRun output asked configPath around s).2 t →
      (generateRun output asked configPath around t).1 =
          (generateRun output asked configPath around s).1 ∧
        ∀ q, FileSystem.content t q =
          FileSystem.content (generateRun output asked configPath around s).2 q) ∧
      ∀ (asked' configPath' : Option Text) (around' : Surroundings) (t : σ),
        (describeRun asked' configPath' around' t).2 = t := by
  refine ⟨fun t ht => ?_, describeRun_state⟩
  rcases generateRun_writes output asked configPath around s with hsame |
    ⟨config, input, generated, hconfig, hinput, hgenerate, hwrite⟩
  · rw [hsame] at ht
    obtain rfl : t = s := ht.invariant (I := (· = s)) (by rintro _ rfl; exact hsame) rfl
    exact ⟨rfl, by rw [hsame]; exact fun _ => rfl⟩
  · obtain ⟨p, hpath, hsettled⟩ := settled_of_writeText hwrite
    obtain ⟨hinputPath, hconfigPath⟩ := h config input hconfig hinput p hpath
    have hagain (t : σ) (ht : Settled (Path.beside input.path output) generated.text p s t) :=
      ht.generateRun hpath hinputPath hconfigPath hconfig hinput hgenerate
    have hend : Settled (Path.beside input.path output) generated.text p s t := by
      refine ht.invariant (fun t ht => ?_) hsettled
      obtain ⟨t', hrun, hsettled'⟩ := hagain t ht
      rwa [hrun]
    obtain ⟨t', hrun, -⟩ := hagain t hend
    refine ⟨?_, hend.content_eq hsettled⟩
    rw [hrun, generateRun_of_write output hconfig hinput hgenerate hwrite]

/-- A store with a file that declares a mapper. -/
def storeOfMarkedTrait : Store where
  workingDirectory := []
  files := [([['i']], Utf8.encode "/// +mapwright:mapper\ntrait A { fn f(&self) -> B; }".toList)]

/-- Nothing names an input, and code is formatted by leaving it as it is. -/
def plainSurroundings : Surroundings := ⟨none, fun _ text => .finished (Utf8.encode text)⟩

theorem generateRun_stable_markedTrait :
    OutputApart ['o'] (some ['i']) none plainSurroundings storeOfMarkedTrait ∧
      (generateRun ['o'] (some ['i']) none plainSurroundings storeOfMarkedTrait).2 ≠
        storeOfMarkedTrait ∧
      (generateRun ['o'] (some ['i']) none plainSurroundings (describeRun (some ['o']) none
        plainSurroundings
        (generateRun ['o'] (some ['i']) none plainSurroundings storeOfMarkedTrait).2).2).1 =
        (generateRun ['o'] (some ['i']) none plainSurroundings storeOfMarkedTrait).1 :=
  have happart : OutputApart ['o'] (some ['i']) none plainSurroundings storeOfMarkedTrait := by
    intro config input _ hinput p hp
    have hpath : input.path = ['i'] := (Option.some.inj hinput.path).symm
    rw [hpath] at hp ⊢
    obtain rfl : [['o']] = p := Option.some.inj hp
    decide
  ⟨happart, by decide +kernel,
    ((generateRun_stable ['o'] (some ['i']) none plainSurroundings storeOfMarkedTrait happart).1 _
      (.describe .start (some ['o']) none plainSurroundings)).1⟩

end MapperGen
