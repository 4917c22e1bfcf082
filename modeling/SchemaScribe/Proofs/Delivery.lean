import SchemaScribe.CommandLine.Run
import SchemaScribe.Proofs.ModuleText
import SchemaScribe.Proofs.Sessions
import SchemaScribe.Proofs.WrittenFiles

/-!
# What a run gives out

A run asks for its configuration, its diagram and its models without giving anything out. Where all three are
there and the diagram has tables, the models go out once, to the output file or to the output. In every other
case nothing is printed, and the files are as they were. So it is with every command line.
-/

namespace SchemaScribe

open Document

/-! ### Silent stages -/

theorem Configuration.isSilent_readEntries (file : String) : (readEntries file).IsSilent := by
  refine ((Session.isSilent_askIsFile _).mapFailure _).bind fun found => ?_
  split
  · refine ((Session.isSilent_readFile _).mapFailure _).bind fun octets => ?_
    refine ((Session.isSilent_ofExcept _).mapFailure _).bind fun v => ?_
    split
    · exact Session.isSilent_finish _
    · exact (Session.isSilent_reportOne _).bind fun _ => Session.isSilent_finish _
    · exact Session.isSilent_fail _
  · exact (Session.isSilent_reportOne _).bind fun _ => Session.isSilent_finish _

theorem Configuration.isSilent_load (file : Option String) (given : List (String × Value)) :
    (load file given).IsSilent := by
  refine Session.IsSilent.bind ?_ fun entries => (Session.isSilent_reportAll _).bind fun _ => ?_
  · unfold fileEntries
    split
    · exact isSilent_readEntries _
    · exact Session.isSilent_finish _
  · split
    · exact Session.isSilent_fail _
    · exact (Session.isSilent_reportOne _).bind fun _ => Session.isSilent_finish _

theorem Diagram.isSilent_load (file : LooseText) : (load file).IsSilent := by
  refine ((Session.isSilent_readFile _).mapFailure _).bind fun octets => ?_
  refine ((Session.isSilent_ofExcept _).mapFailure _).bind fun v => ?_
  refine (Session.isSilent_reportOne _).bind fun _ => ?_
  refine ((Session.isSilent_ofExcept _).mapFailure _).bind fun d => ?_
  exact (Session.isSilent_reportOne _).bind fun _ => Session.isSilent_finish _

/-- The files that an output leaves where it arrives. What is written is in its file, and no other file changes. -/
def Output.Leaves (files later : FileTree) : Output → Prop
  | printed _ => later = files
  | written path text => files.HasWritten path text.toUTF8.toList later

theorem Output.leaves_apply {files : FileTree} {output : Output} (h : output.Arrives files) :
    output.Leaves files (output.apply files) := by
  cases output with
  | printed text => rfl
  | written path text =>
      obtain ⟨later, hlater⟩ := h
      rw [apply, hlater]
      exact FileTree.hasWritten_of_write hlater

namespace CommandLine

theorem isSilent_configure (i : Invocation) : (configure i).IsSilent := by
  refine (Session.isSilent_reportOne _).bind fun _ => (Configuration.isSilent_load _ _).bind fun c => ?_
  split
  · exact Session.isSilent_fail _
  · exact (Session.isSilent_reportAll _).bind fun _ => Session.isSilent_finish _

theorem isSilent_loadDiagram (file : LooseText) : (loadDiagram file).IsSilent := by
  refine (Session.isSilent_reportAll _).bind fun _ => (Diagram.isSilent_load _).bind fun d => ?_
  exact (Session.isSilent_reportOne _).bind fun _ => Session.isSilent_finish _

theorem isSilent_generate (d : Diagram) (options : Options) : (generate d options).IsSilent :=
  (Session.isSilent_reportAll _).bind fun _ => Session.isSilent_ofExcept _

theorem isSilent_formatModels (formatter : CodeFormatter) (c : Configuration) (code : String) :
    (formatModels formatter c code).IsSilent := by
  unfold formatModels
  split
  · exact (Session.isSilent_reportAll _).bind fun _ => Session.isSilent_finish _
  · exact Session.isSilent_finish _

/-! ### Results of the stages -/

variable {files : FileTree} {i : Invocation}

theorem result_configure : ((configure i).on files).result =
    ((Configuration.load i.configFile? i.settings).on files).result.bind fun c =>
      match LooseText.nonEmpty c.inputFile with
      | none => .error .noDiagram
      | some file => .ok (c, file) := by
  simp only [configure, Session.bind_eq, Session.result_bind, Session.on_reportOne, ok_bind,
    (Configuration.isSilent_load _ _).files_on]
  congr 1
  funext c
  cases LooseText.nonEmpty c.inputFile <;> simp [Session.result_bind, ok_bind]

theorem exists_of_configure {c : Configuration} {file : LooseText}
    (h : ((configure i).on files).result = .ok (c, file)) :
    ((Configuration.load i.configFile? i.settings).on files).result = .ok c ∧
      LooseText.nonEmpty c.inputFile = some file := by
  rw [result_configure] at h
  cases hload : ((Configuration.load i.configFile? i.settings).on files).result with
  | error e =>
      rw [hload] at h
      cases h
  | ok read =>
      rw [hload, ok_bind] at h
      cases hfile : LooseText.nonEmpty read.inputFile with
      | none =>
          rw [hfile] at h
          cases h
      | some found =>
          rw [hfile] at h
          obtain ⟨rfl, rfl⟩ := Prod.mk.inj (Except.ok.inj h)
          exact ⟨rfl, hfile⟩

theorem result_loadDiagram (file : LooseText) :
    ((loadDiagram file).on files).result = ((Diagram.load file).on files).result := by
  simp only [loadDiagram, Session.bind_eq, Session.pure_eq, Session.result_bind, Session.on_reportAll, ok_bind,
    Session.on_reportOne, Session.on_finish, bind_ok]

theorem result_generate (d : Diagram) (options : Options) :
    ((generate d options).on files).result = d.modelsModule options := by
  simp only [generate, Session.bind_eq, Session.result_bind, Session.on_reportAll, ok_bind, Session.on_ofExcept]

/-! ### Giving out -/

/-- Where a text goes: to the output file, and to the output where none is named. -/
def outputTo (outputFile : Option LooseText) (text : String) : Output :=
  match LooseText.nonEmpty outputFile with
  | some file => .written (Path.ofText file) text
  | none => .printed text

/-- What goes out for models. They are formatted only if that is asked for. -/
def outgoing (formatter : CodeFormatter) (c : Configuration) (code : String) : Output :=
  outputTo c.outputFile (if c.formatCode then (formatter code).textFor code else code)

theorem result_formatModels (formatter : CodeFormatter) (c : Configuration) (code : String) :
    ((formatModels formatter c code).on files).result =
      .ok (if c.formatCode then (formatter code).textFor code else code) := by
  unfold formatModels
  split
  · simp only [Session.bind_eq, Session.pure_eq, Session.result_bind, Session.on_reportAll, ok_bind,
      Session.on_finish]
  · rfl

theorem gives_deliver (files : FileTree) (outputFile : Option LooseText) (text : String) :
    ∃ result, (deliver outputFile text).Gives files result [outputTo outputFile text] ∧
      ((outputTo outputFile text).Arrives files → result.isOk) := by
  unfold outputTo deliver
  cases LooseText.nonEmpty outputFile with
  | none => exact ⟨.ok (), ⟨rfl, rfl⟩, fun _ => rfl⟩
  | some file =>
      simp only [Session.bind_eq, Session.writeFile, Session.bind]
      cases hwrite : files.write (Path.ofText file) text with
      | ok later =>
          refine ⟨.ok (), ⟨?_, ?_⟩, fun _ => rfl⟩
          · rw [Session.on, hwrite]
            rfl
          · rw [Session.outputs, hwrite]
            rfl
      | error fault =>
          refine ⟨.error fault, ⟨?_, ?_⟩, ?_⟩
          · rw [Session.on, hwrite]
            rfl
          · rw [Session.outputs, hwrite]
            rfl
          · rintro ⟨later, hlater⟩
            rw [hwrite] at hlater
            cases hlater

theorem gives_publish (files : FileTree) (formatter : CodeFormatter) (c : Configuration) {code : String}
    (hcode : code ≠ "") :
    ∃ result, (publish formatter c code).Gives files result [outgoing formatter c code] ∧
      ((outgoing formatter c code).Arrives files → result.isOk) := by
  obtain ⟨result, hdeliver, harrives⟩ := gives_deliver files c.outputFile
    (if c.formatCode then (formatter code).textFor code else code)
  have hformat : (formatModels formatter c code).Gives files _ [] :=
    (isSilent_formatModels formatter c code).gives (result_formatModels _ _ _)
  unfold publish
  rw [if_neg hcode]
  refine ⟨_, hformat.bind_of_ok (hdeliver.mapFailure Failure.output), ?_⟩
  intro h
  have hresult := harrives h
  cases result with
  | ok done => rfl
  | error fault => cases hresult

end CommandLine

theorem Diagram.modelsModule_eq_empty_iff {d : Diagram} {options : Options} {code : String}
    (h : d.modelsModule options = .ok code) : code = "" ↔ d.tables = [] := by
  by_cases htables : d.tables = []
  · rw [modelsModule, htables] at h
    obtain rfl := Except.ok.inj h
    simp [htables]
  · obtain ⟨b, classes, _, _, rfl⟩ := (modelsModule_eq_ok_iff htables).mp h
    rw [ModelsModule.assemble_eq]
    simp [String.append_eq_empty_iff, htables]

namespace CommandLine

/-! ### Runs -/

variable {files : FileTree} {i : Invocation}

/-- The stages of a run up to the models are passed, with this configuration, diagram and text. -/
structure Invocation.Makes (i : Invocation) (files : FileTree) (c : Configuration) (d : Diagram) (code : String) :
    Prop where
  configuration : ((Configuration.load i.configFile? i.settings).on files).result = .ok c
  diagram : ∃ file, LooseText.nonEmpty c.inputFile = some file ∧ ((Diagram.load file).on files).result = .ok d
  models : ∃ options, c.options = .valid options ∧ d.modelsModule options = .ok code

namespace Invocation

variable {c : Configuration} {d : Diagram} {code : String} {formatter : CodeFormatter}

/-- A run that has made models ends as giving them out does. -/
theorem gives_attempt_of_makes (h : i.Makes files c d code) {result : Except Failure Unit} {outputs : List Output}
    (hpublish : (publish formatter c code).Gives files result outputs) :
    (i.attempt formatter).Gives files result outputs := by
  obtain ⟨hconfiguration, ⟨file, hfile, hdiagram⟩, options, hoptions, hmodels⟩ := h
  have hconfigure : ((configure i).on files).result = .ok (c, file) := by
    rw [result_configure, hconfiguration, ok_bind, hfile]
  have hload : ((loadDiagram file).on files).result = .ok d := by rw [result_loadDiagram, hdiagram]
  have hgenerate : ((generate d options).on files).result = .ok code := by rw [result_generate, hmodels]
  refine (((isSilent_configure i).gives hconfigure).mapFailure _).bind_of_ok ?_
  refine (((isSilent_loadDiagram file).gives hload).mapFailure _).bind_of_ok ?_
  rw [hoptions]
  exact (((isSilent_generate d options).gives hgenerate).mapFailure _).bind_of_ok hpublish

/-- A run that makes no models fails before it has given anything out. -/
theorem gives_attempt_of_not_makes (formatter : CodeFormatter) (h : ∀ c d code, ¬ i.Makes files c d code) :
    ∃ failure, (i.attempt formatter).Gives files (.error failure) [] := by
  cases hconfigure : ((configure i).on files).result with
  | error e =>
      exact ⟨_, (((isSilent_configure i).gives hconfigure).mapFailure _).bind_of_error _⟩
  | ok found =>
      obtain ⟨c, file⟩ := found
      obtain ⟨hconfiguration, hfile⟩ := exists_of_configure hconfigure
      have hconfigured := ((isSilent_configure i).gives hconfigure).mapFailure (Failure.configuration i.configFile?)
      cases hload : ((loadDiagram file).on files).result with
      | error e =>
          exact ⟨_, hconfigured.bind_of_ok
            ((((isSilent_loadDiagram file).gives hload).mapFailure _).bind_of_error _)⟩
      | ok d =>
          have hloaded := ((isSilent_loadDiagram file).gives hload).mapFailure (Failure.diagram file)
          cases hoptions : c.options with
          | invalid problems =>
              refine ⟨.options problems, hconfigured.bind_of_ok (hloaded.bind_of_ok ?_)⟩
              rw [hoptions]
              exact ⟨rfl, rfl⟩
          | valid options =>
              cases hgenerate : ((generate d options).on files).result with
              | error e =>
                  refine ⟨.generation e, hconfigured.bind_of_ok (hloaded.bind_of_ok ?_)⟩
                  rw [hoptions]
                  exact (((isSilent_generate d options).gives hgenerate).mapFailure _).bind_of_error _
              | ok code =>
                  rw [result_loadDiagram] at hload
                  rw [result_generate] at hgenerate
                  exact absurd ⟨hconfiguration, ⟨file, hfile, hload⟩, options, hoptions, hgenerate⟩ (h c d code)

theorem gives_conclude (failure : Failure) (files : FileTree) :
    ∃ ended, failure.conclude.Gives files ended [] ∧ exitStatus ended = 1 := by
  unfold Failure.conclude
  cases failure.message? with
  | none => exact ⟨_, ⟨rfl, rfl⟩, rfl⟩
  | some message => exact ⟨_, ⟨rfl, rfl⟩, rfl⟩

theorem gives_run {result : Except Failure Unit} {outputs : List Output}
    (h : (i.attempt formatter).Gives files result outputs) :
    ∃ ended, (i.run formatter).Gives files ended outputs ∧
      exitStatus ended = (if result.isOk then 0 else 1) := by
  have hverbose : ∀ {s : Session Failure Nat} {ended : Except Failure Nat}, s.Gives files ended outputs →
      (do
        if i.verbose then
          Session.reportOne ⟨.debug, "Verbose mode enabled. DEBUG level logging activated."⟩
        s : Session Failure Nat).Gives files ended outputs := by
    intro s ended hs
    have hreport : (Session.reportOne ⟨.debug, "Verbose mode enabled. DEBUG level logging activated."⟩ :
        Session Failure Unit).Gives files (.ok ()) [] := ⟨rfl, rfl⟩
    split
    · exact hreport.bind_of_ok hs
    · exact hs
  cases result with
  | ok done =>
      have hattempt : ((i.attempt formatter).bind fun _ => .finish 0).Gives files (.ok 0) (outputs ++ []) :=
        h.bind_of_ok ⟨rfl, rfl⟩
      rw [List.append_nil] at hattempt
      exact ⟨.ok 0, hverbose (hattempt.recover_of_ok _), rfl⟩
  | error failure =>
      have hattempt := h.bind_of_error fun _ => (.finish 0 : Session Failure Nat)
      obtain ⟨ended, hended, hstatus⟩ := gives_conclude failure (outputs.foldl Output.apply files)
      have hrun := hattempt.recover_of_error hended
      rw [List.append_nil] at hrun
      exact ⟨ended, hverbose hrun, hstatus⟩

theorem changesNothing_run {result : Except Failure Unit} (h : (i.attempt formatter).Gives files result []) :
    (i.run formatter).ChangesNothing files ∧
      exitStatus ((i.run formatter).on files).result = (if result.isOk then 0 else 1) := by
  obtain ⟨ended, hrun, hstatus⟩ := gives_run h
  rw [hrun.result]
  exact ⟨⟨hrun.outputs, hrun.printed_on, hrun.files_on⟩, hstatus⟩

/-- Where the models of a diagram with tables are there, a run gives them out, once and nothing else, and ends
normally if they arrive. Any other run changes nothing: it ends normally where the diagram has no tables, and
else it fails. -/
theorem run_all_or_nothing (formatter : CodeFormatter) (i : Invocation) (files : FileTree) :
    (∀ c d code, i.Makes files c d code → d.tables ≠ [] →
      (i.run formatter).outputs files = [outgoing formatter c code] ∧
      ((i.run formatter).on files).files = (outgoing formatter c code).apply files ∧
      ((i.run formatter).on files).printed = (outgoing formatter c code).printedText ∧
      ((outgoing formatter c code).Arrives files → exitStatus ((i.run formatter).on files).result = 0)) ∧
    (∀ c d code, i.Makes files c d code → d.tables = [] →
      (i.run formatter).ChangesNothing files ∧ exitStatus ((i.run formatter).on files).result = 0) ∧
    ((∀ c d code, ¬ i.Makes files c d code) →
      (i.run formatter).ChangesNothing files ∧ exitStatus ((i.run formatter).on files).result = 1) := by
  refine ⟨?_, ?_, ?_⟩
  · intro c d code hmakes htables
    obtain ⟨options, _, hmodels⟩ := hmakes.models
    have hcode : code ≠ "" := fun hempty => htables ((Diagram.modelsModule_eq_empty_iff hmodels).mp hempty)
    obtain ⟨result, hpublish, harrives⟩ := gives_publish files formatter c hcode
    obtain ⟨ended, hrun, hstatus⟩ := gives_run (gives_attempt_of_makes hmakes hpublish)
    refine ⟨hrun.outputs, hrun.files_on, hrun.printed_on, fun h => ?_⟩
    rw [hrun.result, hstatus, if_pos (harrives h)]
  · intro c d code hmakes htables
    obtain ⟨options, _, hmodels⟩ := hmakes.models
    have hpublish : (publish formatter c code).Gives files (.ok ()) [] := by
      rw [publish, if_pos ((Diagram.modelsModule_eq_empty_iff hmodels).mpr htables)]
      exact ⟨rfl, rfl⟩
    exact changesNothing_run (gives_attempt_of_makes hmakes hpublish)
  · intro hnone
    obtain ⟨failure, hattempt⟩ := gives_attempt_of_not_makes formatter hnone
    exact changesNothing_run hattempt

end Invocation

/-! ### Command lines -/

theorem eq_ok_of_exitStatus_eq_zero {result : Except Failure Nat} (h : exitStatus result = 0) : result = .ok 0 := by
  cases result with
  | ok status => exact congrArg Except.ok h
  | error failure => cases h

section AskedRun

variable (files : FileTree) (isTerminal : Bool) {arguments : List String} {i : Invocation}
  (h : Request.ofArguments arguments = .ok (.run i)) (formatter : CodeFormatter)

include h

/-- What comes of a command line that asks for a run is what comes of the run. -/
theorem outcome_of_run :
    (outcome files isTerminal arguments formatter).status = exitStatus ((i.run formatter).on files).result ∧
      (outcome files isTerminal arguments formatter).output = ((i.run formatter).on files).printed ∧
      (outcome files isTerminal arguments formatter).files = ((i.run formatter).on files).files := by
  rw [outcome, h]
  exact ⟨rfl, rfl, rfl⟩

theorem execute_of_run (hstatus : exitStatus ((i.run formatter).on files).result = 0) :
    execute files isTerminal arguments formatter = .ok (outcome files isTerminal arguments formatter) := by
  have hfailure : (outcome files isTerminal arguments formatter).failure = none := by
    rw [outcome, h]
    exact congrArg failure? (eq_ok_of_exitStatus_eq_zero hstatus)
  simp only [execute, hfailure]

end AskedRun

theorem files_outcome_of_no_run (files : FileTree) (isTerminal : Bool) {arguments : List String}
    (h : ∀ i, Request.ofArguments arguments ≠ .ok (.run i)) (formatter : CodeFormatter) :
    (outcome files isTerminal arguments formatter).files = files := by
  unfold outcome
  cases hrequest : Request.ofArguments arguments with
  | error fault => rfl
  | ok request =>
      cases request with
      | help => rfl
      | run i => exact absurd hrequest (h i)

/-- **All or nothing.** Whatever the arguments are: where they ask for a run and the models of a diagram with
tables are there, these go out, once and nothing else. If they arrive, the run ends normally, the output file
holds their UTF-8 octets, and no other file has changed. Any other run gives nothing out and changes no file;
it ends normally where the diagram has no tables, and else with the status 1. -/
theorem all_or_nothing {files : FileTree} {isTerminal : Bool} {arguments : List String} {formatter : CodeFormatter}
    {o : Outcome} (ho : outcome files isTerminal arguments formatter = o) :
    (∀ i c d code, Request.ofArguments arguments = .ok (.run i) → i.Makes files c d code → d.tables ≠ [] →
      (i.run formatter).outputs files = [outgoing formatter c code] ∧
      o.output = (outgoing formatter c code).printedText ∧ o.files = (outgoing formatter c code).apply files ∧
      ((outgoing formatter c code).Arrives files →
        execute files isTerminal arguments formatter = .ok o ∧ o.status = 0 ∧
        (outgoing formatter c code).Leaves files o.files)) ∧
    (∀ i c d code, Request.ofArguments arguments = .ok (.run i) → i.Makes files c d code → d.tables = [] →
      (i.run formatter).outputs files = [] ∧ o.output = "" ∧ o.files = files ∧
      execute files isTerminal arguments formatter = .ok o ∧ o.status = 0) ∧
    (∀ i, Request.ofArguments arguments = .ok (.run i) → (∀ c d code, ¬ i.Makes files c d code) →
      (i.run formatter).outputs files = [] ∧ o.output = "" ∧ o.files = files ∧ o.status = 1) ∧
    ((∀ i, Request.ofArguments arguments ≠ .ok (.run i)) → o.files = files) := by
  subst ho
  refine ⟨?_, ?_, ?_, fun h => files_outcome_of_no_run files isTerminal h formatter⟩
  · intro i c d code hrequest hmakes htables
    obtain ⟨hstatus, houtput, hfiles⟩ := outcome_of_run files isTerminal hrequest formatter
    obtain ⟨hrun, _⟩ := Invocation.run_all_or_nothing formatter i files
    obtain ⟨houtputs, happlied, hprinted, hnormal⟩ := hrun c d code hmakes htables
    rw [houtput, hfiles, hstatus]
    refine ⟨houtputs, hprinted, happlied, fun harrives => ?_⟩
    refine ⟨execute_of_run files isTerminal hrequest formatter (hnormal harrives), hnormal harrives, ?_⟩
    rw [happlied]
    exact Output.leaves_apply harrives
  · intro i c d code hrequest hmakes htables
    obtain ⟨hstatus, houtput, hfiles⟩ := outcome_of_run files isTerminal hrequest formatter
    obtain ⟨_, hrun, _⟩ := Invocation.run_all_or_nothing formatter i files
    obtain ⟨hnothing, hnormal⟩ := hrun c d code hmakes htables
    rw [houtput, hfiles, hstatus]
    exact ⟨hnothing.outputs, hnothing.printed, hnothing.files,
      execute_of_run files isTerminal hrequest formatter hnormal, hnormal⟩
  · intro i hrequest hnone
    obtain ⟨hstatus, houtput, hfiles⟩ := outcome_of_run files isTerminal hrequest formatter
    obtain ⟨_, _, hrun⟩ := Invocation.run_all_or_nothing formatter i files
    obtain ⟨hnothing, hfails⟩ := hrun hnone
    rw [houtput, hfiles, hstatus]
    exact ⟨hnothing.outputs, hnothing.printed, hnothing.files, hfails⟩

end CommandLine

namespace LoneTable

open CommandLine

def text : List Char := "\x7b\"tables\": [\x7b\"id\": \"t\", \"name\": \"teams\"\x7d]\x7d".toList

def octets : List UInt8 := text.map fun c => UInt8.ofNat c.toNat

def files : FileTree where
  contents := [(["d.json"], .file octets)]
  workingDirectory := []

def diagram : Diagram := { tables := [{ id := "t", name := "teams" }] }

def models : Path := { root := "", names := ["m.py"] }

def invocation : Invocation where
  diagram := some "d.json"
  outputFile := some (.text "m.py")

theorem write_models (code : String) :
    files.write models code = .ok (files.set ["m.py"] (.file code.toUTF8.toList)) := by
  have hparent : files.makeDirectories { root := "", names := [] } = .ok files := by
    rw [FileTree.makeDirectories]
    rfl
  rw [FileTree.write, models, Path.parent, List.dropLast_singleton, hparent]
  rfl

theorem makes {code : String} (h : diagram.modelsModule {} = .ok code) :
    invocation.Makes files { inputFile := some "d.json", outputFile := some "m.py" } diagram code := by
  have hdiagram : ((Diagram.load "d.json").on files).result = .ok diagram := by
    have hload : ((Diagram.load "d.json").on files).result.toOption = some diagram := by decide +kernel
    cases hresult : ((Diagram.load "d.json").on files).result <;> simp_all [Except.toOption]
  exact ⟨rfl, ⟨_, rfl, hdiagram⟩, {}, rfl, h⟩

/-- The class of the table is written to the file, the diagram is left as it was, and nothing is printed. -/
theorem teams_written :
    ∃ code o, diagram.modelsModule {} = .ok code ∧ execute files false ["d.json", "-o", "m.py"] = .ok o ∧
      o.status = 0 ∧ o.output = "" ∧ o.files.read models = .ok code.toUTF8.toList ∧
      o.files.read (Path.ofString "d.json") = .ok octets := by
  have hmodels : (diagram.modelsModule {}).toOption.isSome := by decide +kernel
  cases hcode : diagram.modelsModule {} with
  | error e => simp [hcode, Except.toOption] at hmodels
  | ok code =>
      obtain ⟨hrun, _⟩ := all_or_nothing (rfl : outcome files false ["d.json", "-o", "m.py"] .unavailable = _)
      obtain ⟨_, houtput, hfiles, hnormal⟩ := hrun invocation _ _ _ rfl (makes hcode) (by decide)
      obtain ⟨hexecute, hstatus, hleaves⟩ := hnormal ⟨_, write_models code⟩
      refine ⟨code, _, rfl, hexecute, hstatus, houtput, hleaves.read, hleaves.others _ _ rfl ?_⟩
      have hwritten : (outgoing .unavailable { inputFile := some "d.json", outputFile := some "m.py" } code).apply
          files = files.set ["m.py"] (.file code.toUTF8.toList) := by
        show (Output.written models code).apply files = _
        rw [Output.apply, write_models]
      rw [hfiles, hwritten]
      intro hsame
      have hplaces : ["d.json"] = ["m.py"] := congrArg Prod.fst (Except.ok.inj hsame)
      exact absurd hplaces (by decide)

end LoneTable

end SchemaScribe
