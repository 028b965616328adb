import JsonSchema.Program
import JsonSchema.Proofs.Runner.Schedules
/-!
# Runs that stop at the first failure

Which files of a run are skipped depends on the order in which the workers take and finish them.
Whether there is a failure does not, because a file is only skipped after another one has failed
(`Runner.exists_failure_iff`). So a call that stops at the first failure ends with the same status
as one that goes on (`Program.status_validate`).
-/

namespace JsonSchema

theorem Outcome.isFailure_of_not_valid {o : Outcome} (hs : o.isSkipped = false)
    (hv : o.isValid = false) : o.isFailure = true := by
  cases o with
  | valid => cases hv
  | invalid => rfl
  | error message => rfl
  | skipped reason => cases hs

namespace Results

theorem hasFailures_iff (r : Results) :
    r.hasFailures = true ↔ ∃ f ∈ r.files, f.outcome.isFailure = true := by
  have one (kind : Outcome → Bool) :
      (r.count kind != 0) = true ↔ ∃ f ∈ r.files, kind f.outcome = true := by
    rw [bne_iff_ne, ← Nat.pos_iff_ne_zero]
    exact List.countP_pos_iff
  rw [hasFailures, Bool.or_eq_true, one, one, ← exists_or]
  refine exists_congr fun f => ?_
  rw [← and_or_left, Outcome.isFailure, Bool.or_eq_true, or_comm]

/-- Each file is counted under one kind. -/
theorem count_kinds (r : Results) : r.count Outcome.isValid + r.count Outcome.isInvalid +
    r.count Outcome.isError + r.count Outcome.isSkipped = r.size := by
  obtain ⟨files, metrics⟩ := r
  simp only [count, size]
  induction files with
  | nil => rfl
  | cons f files ih =>
    have one : ((if f.outcome.isValid = true then 1 else 0) +
        if f.outcome.isInvalid = true then 1 else 0) + (if f.outcome.isError = true then 1 else 0) +
        (if f.outcome.isSkipped = true then 1 else 0) = 1 := by
      cases f.outcome <;> rfl
    simp only [List.countP_cons, List.length_cons]
    omega

end Results

namespace Runner

section

variable (failFast : Bool) (judge : Path → Outcome) (paths : List Path) (turns : List Turn)

theorem sound_batch : Batch.Sound failFast (judgeAt judge paths) paths.length
    (batch failFast judge paths turns) :=
  Batch.sound_run (Batch.sound_start _) _

theorem isComplete_batch : (batch failFast judge paths turns).isComplete = true := by
  have size : ((Batch.start paths.length).run failFast (judgeAt judge paths) turns).slots.length =
      paths.length := (Batch.sound_run (Batch.sound_start _) _).size
  have complete := Batch.isComplete_oneByOne failFast (judgeAt judge paths)
    ((Batch.start paths.length).run failFast (judgeAt judge paths) turns)
  rw [size] at complete
  rw [batch, Batch.run_append]
  exact complete

theorem slots_batch : (batch failFast judge paths turns).slots =
    (batch failFast judge paths turns).outcomes.map Slot.done :=
  Batch.slots_eq_of_isComplete (isComplete_batch failFast judge paths turns)

theorem length_outcomes : (batch failFast judge paths turns).outcomes.length = paths.length := by
  have size := (sound_batch failFast judge paths turns).size
  rwa [slots_batch, List.length_map] at size

theorem map_path_fileOutcomes :
    (fileOutcomes paths (batch failFast judge paths turns)).map (·.path) = paths := by
  rw [fileOutcomes, List.map_map]
  exact List.map_fst_zip (Nat.le_of_eq (length_outcomes failFast judge paths turns).symm)

end

variable {failFast : Bool} {judge : Path → Outcome} {paths : List Path} {turns : List Turn}

theorem judgeAt_of_getElem? {i : Nat} {p : Path} (h : paths[i]? = some p) :
    judgeAt judge paths i = judge p := by
  rw [judgeAt, h]; rfl

/-- The files stand in the order of their numbers, with what their slots hold. -/
theorem mem_fileOutcomes {f : FileOutcome} :
    f ∈ fileOutcomes paths (batch failFast judge paths turns) ↔ f.duration = .zero ∧
      ∃ i : Nat, paths[i]? = some f.path ∧
        (batch failFast judge paths turns).slots[i]? = some (Slot.done f.outcome) := by
  have slot (i : Nat) (o : Outcome) :
      (batch failFast judge paths turns).slots[i]? = some (Slot.done o) ↔
        (batch failFast judge paths turns).outcomes[i]? = some o := by
    rw [slots_batch, List.getElem?_map]
    simp
  constructor
  · intro hf
    obtain ⟨po, hpo, rfl⟩ := List.mem_map.1 hf
    obtain ⟨i, hi⟩ := List.mem_iff_getElem?.1 hpo
    obtain ⟨hp, ho⟩ := List.getElem?_zip_eq_some.1 hi
    exact ⟨rfl, i, hp, (slot i _).2 ho⟩
  · rintro ⟨hd, i, hp, ho⟩
    refine List.mem_map.2 ⟨(f.path, f.outcome), ?_, by rw [← hd]⟩
    exact List.mem_iff_getElem?.2 ⟨i, List.getElem?_zip_eq_some.2 ⟨hp, (slot i _).1 ho⟩⟩

/-- A file is judged, or skipped because another one has failed. -/
theorem outcome_of_mem {f : FileOutcome}
    (hf : f ∈ fileOutcomes paths (batch failFast judge paths turns)) :
    f.outcome = judge f.path ∨ f.outcome = Batch.skipped ∧ failFast = true ∧
      ∃ f' ∈ fileOutcomes paths (batch failFast judge paths turns),
        f'.outcome = judge f'.path ∧ (judge f'.path).isValid = false := by
  have sound := sound_batch failFast judge paths turns
  obtain ⟨-, i, hp, ho⟩ := mem_fileOutcomes.1 hf
  rcases sound.judged i _ ho with judged | ⟨skipped, stopped⟩
  · exact .inl (judged.trans (judgeAt_of_getElem? hp))
  right
  obtain ⟨hff, j, hv, hj⟩ := sound.cause stopped
  have inside : j < paths.length := by
    rw [← sound.size]
    exact (List.getElem?_eq_some_iff.1 hj).1
  have hpj : paths[j]? = some paths[j] := List.getElem?_eq_getElem inside
  rw [judgeAt_of_getElem? hpj] at hv hj
  refine ⟨skipped, hff, ⟨paths[j], judge paths[j], .zero⟩, ?_, rfl, hv⟩
  exact mem_fileOutcomes.2 ⟨rfl, j, hpj, hj⟩

/-- Whatever the schedule, there is a failure exactly if some file fails when it is validated. -/
theorem exists_failure_iff (looked : ∀ p, (judge p).isSkipped = false) :
    (∃ f ∈ fileOutcomes paths (batch failFast judge paths turns), f.outcome.isFailure = true) ↔
      ∃ p ∈ paths, (judge p).isFailure = true := by
  have listed : ∀ p, p ∈ paths ↔
      ∃ f ∈ fileOutcomes paths (batch failFast judge paths turns), f.path = p := by
    intro p
    rw [← List.mem_map, map_path_fileOutcomes]
  constructor
  · rintro ⟨f, hf, fails⟩
    rcases outcome_of_mem hf with judged | ⟨skipped, -⟩
    · exact ⟨f.path, (listed _).2 ⟨f, hf, rfl⟩, judged ▸ fails⟩
    · rw [skipped] at fails
      cases fails
  · rintro ⟨p, hp, fails⟩
    obtain ⟨f, hf, rfl⟩ := (listed p).1 hp
    rcases outcome_of_mem hf with judged | ⟨-, -, f', hf', judged, hv⟩
    · exact ⟨f, hf, judged ▸ fails⟩
    · exact ⟨f', hf', judged ▸ Outcome.isFailure_of_not_valid (looked f'.path) hv⟩

/-- To validate a file is to look at it. -/
theorem not_isSkipped_judge (t : FileTree) (g : Graph) (p : Path) :
    (Runner.judge t g p).isSkipped = false := by
  unfold Runner.judge
  split
  · rfl
  · split
    · rfl
    · split <;> rfl

/-- Neither the rule to stop at the first failure nor the schedule decides whether there is one. -/
theorem hasFailures_eq (t : FileTree) (g : Graph) (paths : List Path) (failFast failFast' : Bool)
    (turns turns' : List Turn) (m m' : Metrics) :
    let files := fileOutcomes paths (batch failFast (Runner.judge t g) paths turns)
    let files' := fileOutcomes paths (batch failFast' (Runner.judge t g) paths turns')
    (⟨files, m⟩ : Results).hasFailures = (⟨files', m'⟩ : Results).hasFailures := by
  intro files files'
  have looked := not_isSkipped_judge t g
  rw [Bool.eq_iff_iff, Results.hasFailures_iff, Results.hasFailures_iff,
    exists_failure_iff looked, exists_failure_iff looked]

/-- How runs differ that start without compiled schemas. -/
theorem result_run (t : FileTree) (schema : Path) (paths : List Path) (s : Selection)
    (workers workers' : Nat) (failFast failFast' : Bool) (turns turns' : List Turn) :
    (∃ e, ((new workers failFast).run t schema paths s turns).result = .error e ∧
      ((new workers' failFast').run t schema paths s turns').result = .error e) ∨
    ∃ g found m m', ((new workers failFast).run t schema paths s turns).result =
        .ok ⟨fileOutcomes found (batch failFast (Runner.judge t g) found turns), m⟩ ∧
      ((new workers' failFast').run t schema paths s turns').result =
        .ok ⟨fileOutcomes found (batch failFast' (Runner.judge t g) found turns'), m'⟩ := by
  cases hr : t.resolve schema with
  | error f =>
    refine .inl ⟨.schemaLoading schema f.message, ?_, ?_⟩ <;> simp [run, load, hr]
  | ok place =>
    cases hc : compile t place with
    | error e =>
      refine .inl ⟨e, ?_, ?_⟩ <;> simp [run, load, new, hr, hc, bind, Except.bind]
    | ok g =>
      cases hf : Discovery.findAll t s paths with
      | error e => refine .inl ⟨e, ?_, ?_⟩ <;> simp [run, load, new, hr, hc, hf, bind, Except.bind]
      | ok found =>
        refine .inr ⟨g, found, { workers := workers, schemaNodes := g.size },
          { workers := workers', schemaNodes := g.size }, ?_, ?_⟩ <;>
        simp [run, load, new, hr, hc, hf, bind, Except.bind]

end Runner

namespace Program

/-- The status of a call depends neither on the rule to stop at the first failure nor on the number
of workers and their schedule. -/
theorem status_validate (t : FileTree) (c : CommandLine) (s s' : Settings) (now now' : String)
    (cores cores' : Nat) (turns turns' : List Turn) (hs : s'.files = s.files) :
    (validate t c s' now' cores' turns').status = (validate t c s now cores turns).status := by
  have same : selection s' = selection s := by rw [selection, hs]; rfl
  simp only [validate, same]
  cases selection s with
  | error f => rfl
  | ok sel =>
    rcases Runner.result_run t c.schema c.paths sel (s.validation.threads.getD cores)
        (s'.validation.threads.getD cores') s.validation.failFast s'.validation.failFast turns
        turns' with ⟨e, h, h'⟩ | ⟨g, found, m, m', h, h'⟩
    · simp only [h, h']
    · simp only [h, h', reported]
      rw [Runner.hasFailures_eq t g found s'.validation.failFast s.validation.failFast turns' turns
        m' m]

end Program

/-- To stop at the first failure leaves files out, but does not change how a run ends. In every
schedule the files stand in their order, each validated unless it was skipped, and one is skipped
only under this rule and if another one has failed; each is counted once; and there is a failure, so
that the status is not zero, exactly if there is one when no file is left out. -/
theorem Runner.failFast_keeps_outcome (t : FileTree) (g : Graph) (paths : List Path)
    (failFast : Bool) (turns : List Turn) (m : Metrics) :
    let files := fileOutcomes paths (batch failFast (judge t g) paths turns)
    let results : Results := ⟨files, m⟩
    files.map (·.path) = paths ∧
    (∀ f ∈ files, f.outcome = judge t g f.path ∨ f.outcome.isSkipped = true) ∧
    (∀ f ∈ files, f.outcome.isSkipped = true →
      failFast = true ∧ ∃ f' ∈ files, f'.outcome.isFailure = true) ∧
    results.count Outcome.isValid + results.count Outcome.isInvalid +
      results.count Outcome.isError + results.count Outcome.isSkipped = paths.length ∧
    (∀ turns' m', results.hasFailures =
      (⟨fileOutcomes paths (batch false (judge t g) paths turns'), m'⟩ : Results).hasFailures) ∧
    ∀ (c : CommandLine) (s : Settings) (threads : Option Nat) (now now' : String)
      (cores cores' : Nat) (turns' : List Turn),
      (Program.validate t c { s with validation := ⟨threads, false⟩ } now' cores' turns').status =
        (Program.validate t c s now cores turns).status := by
  intro files results
  have paths_eq : files.map (·.path) = paths :=
    map_path_fileOutcomes failFast (judge t g) paths turns
  refine ⟨paths_eq, fun f hf => ?_, fun f hf skipped => ?_, ?_, fun turns' m' => ?_, ?_⟩
  · rcases outcome_of_mem hf with judged | ⟨skipped, -⟩
    · exact .inl judged
    · exact .inr (by rw [skipped]; rfl)
  · rcases outcome_of_mem hf with judged | ⟨-, hff, f', hf', judged, hv⟩
    · rw [judged, not_isSkipped_judge] at skipped
      cases skipped
    · refine ⟨hff, f', hf', ?_⟩
      rw [judged]
      exact Outcome.isFailure_of_not_valid (not_isSkipped_judge t g _) hv
  · have size : results.size = paths.length := by
      rw [← paths_eq, List.length_map]
      rfl
    rw [results.count_kinds, size]
  · exact hasFailures_eq t g paths failFast false turns turns' m m'
  · intro c s threads now now' cores cores' turns'
    exact Program.status_validate t c s _ now now' cores cores' turns turns' rfl

-- whether the second file is skipped depends on when its worker looks
example :
    let judge := fun i => if i = 0 then Outcome.invalid else .valid
    ((Batch.start 2).run true judge (Batch.oneByOne 2)).outcomes = [.invalid, Batch.skipped] ∧
    ((Batch.start 2).run true judge [.take 1, .take 0, .finish 0, .finish 1]).outcomes =
      [.invalid, .valid] := by
  decide

end JsonSchema
