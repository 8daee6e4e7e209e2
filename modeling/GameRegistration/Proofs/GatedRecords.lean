import GameRegistration.Proofs.GamePlan

/-! Nothing is registered once something is wrong: in a run of any jobs no gated record comes after
an error, of the same job or of an earlier one. -/
namespace GameRegistration

namespace Sample

def element (localName : String) (attributes : List (String × String))
    (children : List Element := []) : Element where
  name := { rawSpace := some gamingSpace, localName }
  attributes := attributes.map fun (name, value) => { name := { localName := name }, value }
  children

def playTask : Element := element "PlayTask" [("Name", "Play"), ("Arguments", "-safe")]

def supportTask : Element := element "SupportTask" [("Name", "Help"), ("Address", "http://help")]

def game (attributes : List (String × String)) (children : List Element) : Element :=
  element "Game" (("Id", "12345678-1234-5678-90ab-1234567890ab") :: attributes) children

def file : Element where
  name := { localName := "File" }

def context : Context where
  entries := [("FileId", "GameExe"), ("ComponentId", "GameComp"), ("DirectoryId", "INSTALLFOLDER")]

def job (game : Element) : Job := .onElement context file game

/-- Fails for the name of a file. -/
def failingJob : Job := job (game [("ExecutableFile", "1")] [playTask])

def flawlessJob : Job := job (game [] [playTask, supportTask])

theorem withinLimits : ∀ j ∈ [failingJob, flawlessJob], j.WithinLimits := by
  rw [List.forall_mem_cons, List.forall_mem_singleton]
  constructor
  · exact Job.withinLimits_of_length_le context file (by decide)
  · exact Job.withinLimits_of_length_le context file (by decide)

end Sample

namespace Compilation
variable {setup : Setup}

theorem gatedRecords_of_failed {jobs : List Job} (h : ∀ job ∈ jobs, job.WithinLimits) :
    (run setup true jobs).records.filter Record.isGated = [] := by
  rw [List.filter_eq_nil_iff]
  intro r hr
  obtain ⟨e, he, her⟩ := List.mem_filterMap.1 hr
  have hgated := (Job.orderly_plans h).not_gated_of_failed e he
  cases e with
  | record origin r' =>
    cases her
    change r.isGated = false at hgated
    rw [hgated]
    exact Bool.false_ne_true
  | _ => cases her

theorem no_gated_record_after_error (setup : Setup) (jobs : List Job)
    (h : ∀ job ∈ jobs, job.WithinLimits) :
    (∀ source component kind ordinal r,
      .emit r ∈ (Task.directory source component kind ordinal).actions → r.isGated = true) ∧
    (∀ before origin record after,
      (run setup false jobs).entries = before ++ .record origin record :: after →
      record.isGated = true → ∀ d, .diagnostic d ∈ before → d.level ≠ .error) ∧
    ((run setup false jobs).failed = true ↔
      ∃ d ∈ (run setup false jobs).diagnostics, d.level = .error) ∧
    (∀ earlier later, jobs = earlier ++ later → (run setup false earlier).failed = true →
      (run setup false jobs).failed = true ∧
      (run setup false jobs).records.filter Record.isGated =
        (run setup false earlier).records.filter Record.isGated) := by
  refine ⟨fun _ _ _ _ _ => Task.isGated_of_mem_directory, ?_,
    (Plan.honest_perform setup false _).failed_iff, ?_⟩
  · intro before origin record after hsplit hgated d hd hlevel
    have hpairwise : (run setup false jobs).entries.Pairwise Entry.MayPrecede :=
      (Job.orderly_plans h).pairwise
    rw [hsplit, List.pairwise_append] at hpairwise
    have hlast := hpairwise.2.2 _ hd (.record origin record) (by simp)
      (Entry.isError_iff.2 ⟨d, rfl, hlevel⟩)
    change record.isGated = false at hlast
    rw [hlast] at hgated
    cases hgated
  · rintro earlier later rfl hfailed
    have hlater : (run setup true later).records.filter Record.isGated = [] :=
      gatedRecords_of_failed fun job hjob => h job (List.mem_append_right _ hjob)
    rw [run_append, hfailed, Bool.or_true, Journal.failed_append, hfailed, Journal.records_append,
      List.filter_append, hlater, List.append_nil, Bool.true_or]
    exact ⟨rfl, rfl⟩

/-- Behind a failed game a flawless one is not registered. -/
theorem flawless_game_after_failed_one :
    (∀ job ∈ [Sample.failingJob, Sample.flawlessJob], job.WithinLimits) ∧
    (run { links := some .shortcut } false [Sample.failingJob, Sample.flawlessJob]).failed = true ∧
    (run { links := some .shortcut } false
        [Sample.failingJob, Sample.flawlessJob]).records.filter Record.isGated =
      (run { links := some .shortcut } false [Sample.failingJob]).records.filter Record.isGated :=
  ⟨Sample.withinLimits,
    (no_gated_record_after_error { links := some .shortcut } _ Sample.withinLimits).2.2.2
      [Sample.failingJob] [Sample.flawlessJob] rfl (by decide)⟩

end Compilation

end GameRegistration
