import Checkpointing.Proofs.Options.Planning
import Checkpointing.Proofs.Options.Totality
import Checkpointing.Proofs.Report.Json
import Checkpointing.Proofs.Report.Table

/-!
# The verdict on a file

Whether a file is valid is a matter of its contents: they are text, the text says options, and the default
settings can be changed by these. The exit code tells, whatever the name of the job and the format of the
report are, and the report shows the settings that the options lead to.
-/

namespace Checkpointing.CommandLine
set_option autoImplicit false

open Report (Format)

variable {read : FileReader} {args : List String} {file name : String} {format : Format}
  {bytes : ByteArray} {options : Options} {c : Config}

/-- The contents of a file say the options that lead to an outcome. -/
def LeadsTo (bytes : ByteArray) (outcome : Except (Failure Rejection) Config) : Prop :=
  ∃ text options, String.fromUTF8? bytes = some text ∧ OptionsFile.read text = .ok options ∧
    (Config.ofOptions options).outcome = outcome

def Valid (bytes : ByteArray) (c : Config) : Prop := LeadsTo bytes (.ok c)

theorem load_eq_ok_iff (hread : read file = .ok bytes) : load read file = .ok options ↔
    ∃ text, String.fromUTF8? bytes = some text ∧ OptionsFile.read text = .ok options := by
  rw [load, hread]
  dsimp only
  cases String.fromUTF8? bytes with
  | none => simp
  | some text => simp [Outcome.mapError_eq_ok_iff]

theorem leadsTo_iff (hread : read file = .ok bytes) {outcome : Except (Failure Rejection) Config} :
    LeadsTo bytes outcome ↔
      ∃ options, load read file = .ok options ∧ (Config.ofOptions options).outcome = outcome := by
  simp only [load_eq_ok_iff hread]
  constructor
  · rintro ⟨text, options, htext, hoptions, houtcome⟩
    exact ⟨options, ⟨text, htext, hoptions⟩, houtcome⟩
  · rintro ⟨options, ⟨text, htext, hoptions⟩, houtcome⟩
    exact ⟨text, options, htext, hoptions, houtcome⟩

theorem exists_of_load_eq_error {e : Error} (h : load read file = .error e) :
    ∃ chain, e = .reported chain := by
  unfold load at h
  split at h
  · exact ⟨_, (Except.error.inj h).symm⟩
  · split at h
    · exact ⟨_, (Except.error.inj h).symm⟩
    · obtain ⟨cause, _, rfl⟩ := Outcome.mapError_eq_error_iff.mp h
      exact ⟨_, rfl⟩

theorem outcome_plan_eq_ok_iff {e : Environment} :
    ((Plan.start name).note (.options options)).build.outcome = .ok e ↔
      ∃ c, (Config.ofOptions options).outcome = .ok c ∧ e = ⟨name, c⟩ := by
  have hsame : (Config.ofOptions ((Plan.start name).note (.options options)).options).outcome =
      (Config.ofOptions options).outcome :=
    Config.outcome_configure_congr (Options.lookup_emptyc_merge options) .default
  rw [Plan.outcome_build_eq_ok_iff, hsame]
  constructor
  · rintro ⟨c, hc, _, _, rfl⟩
    exact ⟨c, hc, rfl⟩
  · rintro ⟨c, hc, rfl⟩
    exact ⟨c, hc, nofun, nofun, rfl⟩

theorem outcome_validate_eq_ok_iff {job : Job} : (validate read file name).outcome = .ok job ↔
    ∃ options c, load read file = .ok options ∧ (Config.ofOptions options).outcome = .ok c ∧
      job = ⟨name, c⟩ := by
  simp only [validate, Traced.outcome_bind_eq_ok_iff, Traced.outcome_ofExcept, Traced.outcome_log,
    Traced.outcome_mapError_eq_ok_iff, outcome_plan_eq_ok_iff, Environment.build, Traced.pure_eq,
    Traced.outcome_ok]
  constructor
  · rintro ⟨options, hload, _, _, _, ⟨c, hc, rfl⟩, _, _, _, _, hjob⟩
    exact ⟨options, c, hload, hc, (Except.ok.inj hjob).symm⟩
  · rintro ⟨options, c, hload, hc, rfl⟩
    exact ⟨options, hload, (), trivial, _, ⟨c, hc, rfl⟩, (), trivial, (), trivial, rfl⟩

/-- A file that is not valid is reported or given up. -/
theorem of_outcome_validate_eq_error {e : Error} (h : (validate read file name).outcome = .error e) :
    (∃ chain, e = .reported chain) ∨ e = .overflow := by
  simp only [validate, Traced.outcome_bind_eq_error_iff, Traced.outcome_ofExcept, Traced.outcome_log,
    Environment.build] at h
  rcases h with h | ⟨options, _, h | ⟨_, _, h | ⟨_, _, h | ⟨_, _, h | ⟨_, _, h⟩⟩⟩⟩⟩
  · exact .inl (exists_of_load_eq_error h)
  · exact absurd h (by simp)
  · obtain ⟨failure, _, rfl⟩ := Outcome.mapError_eq_error_iff.mp h
    cases failure with
    | refused cause => exact .inl ⟨_, rfl⟩
    | overflow => exact .inr rfl
  · exact absurd h (by simp)
  · exact absurd h (by simp)
  · exact absurd h (by simp)

/-! ## Arguments for every job -/

theorem nameArgument_ne {arg : String} (harg : arg.length < 7) (name : String) :
    "--name=" ++ name ≠ arg := by
  intro h
  have hlength := congrArg String.length h
  have hname : "--name=".length = 7 := by decide
  rw [String.length_append, hname] at hlength
  omega

theorem splitOption?_nameArgument (name : String) :
    splitOption? ("--name=" ++ name) = some ("name", some name) := by
  simp [splitOption?]

theorem isOption_nameArgument (name : String) : isOption ("--name=" ++ name) = true := by
  simp [isOption, nameArgument_ne (by decide : "-".length < 7) name]

theorem readArguments_nameArgument {known : List String} (hknown : "name" ∈ known) (before : Arguments)
    (hbefore : before.options.lookup "name" = none) (name : String) (args : List String) :
    readArguments known before (("--name=" ++ name) :: args) =
      readArguments known { before with options := ("name", name) :: before.options } args := by
  rw [readArguments, if_neg (nameArgument_ne (by decide) name), isOption_nameArgument,
    splitOption?_nameArgument]
  simp [hknown, hbefore]

/-- Any name can be given, with either format and for any file that has a name. -/
theorem exists_ofArguments?_eq (hfile : file ≠ "") (name : String) (format : Format) :
    ∃ args, Command.ofArguments? args = some (.validate file name format) := by
  cases format with
  | table =>
    refine ⟨["validate", "--name=" ++ name, "--", file], ?_⟩
    rw [Command.ofArguments?, readArguments_nameArgument (by simp) _ rfl]
    simp [readArguments, Arguments.format?, hfile]
  | json =>
    refine ⟨["validate", "--name=" ++ name, "--format=json", "--", file], ?_⟩
    rw [Command.ofArguments?, readArguments_nameArgument (by simp) _ rfl]
    simp [readArguments, isOption, splitOption?, Arguments.format?, Format.ofName?, hfile]
    rfl

/-! ## The verdict -/

theorem Valid.coherent (hc : Valid bytes c) : c.Coherent := by
  obtain ⟨_, _, _, _, hconfig⟩ := hc
  exact Config.coherent_default.configure hconfig

theorem exists_valid_of_ok {job : Job} (hread : read file = .ok bytes)
    (h : (validate read file name).outcome = .ok job) : ∃ c, Valid bytes c := by
  obtain ⟨options, c, hload, hconfig, _⟩ := outcome_validate_eq_ok_iff.mp h
  exact ⟨c, (leadsTo_iff hread).mpr ⟨options, hload, hconfig⟩⟩

@[simp] theorem exit_ok (text : String) : exit (.ok text) = ⟨0, text⟩ := rfl

@[simp] theorem exit_error (e : Error) : exit (.error e) = ⟨e.exitCode, ""⟩ := rfl

theorem Error.exitCode_ne_zero (e : Error) : e.exitCode ≠ 0 := by
  cases e with
  | usage => decide
  | reported chain => exact (by decide : (1 : UInt32) ≠ 0)
  | overflow => decide

section Run
variable (hargs : Command.ofArguments? args = some (.validate file name format))
include hargs

theorem outcome_run : (run read args).outcome =
    (validate read file name).outcome.map fun job => Report.text job.name job.config format := by
  rw [run, hargs]
  exact Traced.outcome_andThen _ _

theorem exit_of_error {e : Error} (h : (validate read file name).outcome = .error e) :
    exit (run read args).outcome = ⟨e.exitCode, ""⟩ := by
  simp only [outcome_run hargs, h, Except.map, exit_error]

theorem exit_of_valid (hread : read file = .ok bytes) (hc : Valid bytes c) :
    exit (run read args).outcome = ⟨0, Report.text name c format⟩ := by
  obtain ⟨options, hload, hconfig⟩ := (leadsTo_iff hread).mp hc
  have hjob : (validate read file name).outcome = .ok ⟨name, c⟩ :=
    outcome_validate_eq_ok_iff.mpr ⟨options, c, hload, hconfig, rfl⟩
  simp only [outcome_run hargs, hjob, Except.map, exit_ok]

theorem code_eq_zero_iff (hread : read file = .ok bytes) :
    (exit (run read args).outcome).code = 0 ↔ ∃ c, Valid bytes c := by
  constructor
  · intro hcode
    cases h : (validate read file name).outcome with
    | ok job => exact exists_valid_of_ok hread h
    | error e =>
      rw [exit_of_error hargs h] at hcode
      exact absurd hcode e.exitCode_ne_zero
  · rintro ⟨c, hc⟩
    rw [exit_of_valid hargs hread hc]

theorem exit_of_not_valid (hread : read file = .ok bytes) (hvalid : ¬∃ c, Valid bytes c)
    (hoverflow : ¬LeadsTo bytes (.error .overflow)) : exit (run read args).outcome = ⟨1, ""⟩ := by
  cases h : (validate read file name).outcome with
  | ok job => exact absurd (exists_valid_of_ok hread h) hvalid
  | error e =>
    rw [exit_of_error hargs h]
    rcases of_outcome_validate_eq_error h with ⟨chain, rfl⟩ | rfl
    · rw [Error.exitCode]
    · exact absurd ((leadsTo_iff hread).mpr (outcome_validate_eq_overflow_iff.mp h)) hoverflow

end Run

theorem fromUTF8?_toUTF8 (text : String) : String.fromUTF8? text.toUTF8 = some text :=
  dif_pos text.isValidUTF8

def everyTenSeconds : String := "execution.checkpointing:\n  interval: 10s\n"

theorem valid_everyTenSeconds :
    Valid everyTenSeconds.toUTF8 { Config.default with interval := 10000 } := by
  have hread : (OptionsFile.read everyTenSeconds).toOption.map (·.toList) =
      some [("execution.checkpointing.interval", "10s")] := by decide +kernel
  cases hoptions : OptionsFile.read everyTenSeconds with
  | error e => simp [hoptions, Except.toOption] at hread
  | ok options =>
    have hlist : options.toList = [("execution.checkpointing.interval", "10s")] := by
      simpa [hoptions, Except.toOption] using hread
    have hlookup : ∀ s, options.lookup s = (Options.ofPairs options.toList).lookup s :=
      fun s => (Report.getElem?_ofPairs_toList options s.key).symm
    refine ⟨everyTenSeconds, options, fromUTF8?_toUTF8 _, hoptions, ?_⟩
    rw [Config.ofOptions, Config.outcome_configure_congr hlookup, hlist]
    decide +kernel

/-- A file is reported as valid when it is, and the report has the settings that the file gives: a JSON
object decodes to them, and the rows of a table are their options. -/
theorem validate_tells_the_truth
    (hargs : Command.ofArguments? args = some (.validate file name format))
    (hread : read file = .ok bytes) :
    ((exit (run read args).outcome).code = 0 ↔ ∃ c, Valid bytes c) ∧
    ((¬∃ c, Valid bytes c) → ¬LeadsTo bytes (.error .overflow) →
      exit (run read args).outcome = ⟨1, ""⟩) ∧
    ∀ c, Valid bytes c →
      (format = .json → ∃ members,
        Json.IsObject members (exit (run read args).outcome).output ∧ Report.Tells name c members) ∧
      (format = .table →
        Report.printedRows (exit (run read args).outcome).output = c.toOptions.toList ∧
        (Config.ofOptions (.ofPairs (Report.printedRows (exit (run read args).outcome).output))).outcome =
          .ok c) := by
  refine ⟨code_eq_zero_iff hargs hread, exit_of_not_valid hargs hread, ?_⟩
  intro c hc
  rw [exit_of_valid hargs hread hc]
  dsimp only
  constructor
  · rintro rfl
    exact Report.exists_tells name hc.coherent
  · rintro rfl
    exact ⟨Report.printedRows_text name c, Report.outcome_ofOptions_printedRows name hc.coherent⟩

def validateAsJson : List String := ["validate", "options.yaml", "--format", "json"]

theorem validate_tells_the_truth_of_everyTenSeconds :
    Command.ofArguments? validateAsJson = some (.validate "options.yaml" "job" .json) ∧
    ∃ members, Json.IsObject members
        (exit (run (fun _ => .ok everyTenSeconds.toUTF8) validateAsJson).outcome).output ∧
      Report.Tells "job" { Config.default with interval := 10000 } members := by
  have hargs : Command.ofArguments? validateAsJson = some (.validate "options.yaml" "job" .json) := by
    simp [validateAsJson, Command.ofArguments?, readArguments, isOption, splitOption?, Arguments.format?,
      Format.ofName?]
  obtain ⟨_, _, hreport⟩ := @validate_tells_the_truth (fun _ => .ok everyTenSeconds.toUTF8) _ _ _ _ _
    hargs rfl
  exact ⟨hargs, (hreport _ valid_everyTenSeconds).1 rfl⟩

end Checkpointing.CommandLine
