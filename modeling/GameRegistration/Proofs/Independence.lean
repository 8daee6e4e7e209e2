import GameRegistration.Request
import GameRegistration.Proofs.SavedGames

/-! Jobs are independent: nothing passes from one to another but the news of an error. A request is
committed exactly if each job alone is, and then holds what they hold, in order. -/
namespace GameRegistration

/-- Commits in order as one section. -/
def Commit.joined (sectionId : String) (commits : List Commit) : Commit where
  content := { id := sectionId, records := commits.flatMap (·.content.records) }
  warnings := commits.flatMap (·.warnings)

theorem Compilation.finish_eq_ok_iff {sectionId : String} {j : Journal} {commit : Commit} :
    finish sectionId j = .ok commit ↔
      j.failed = false ∧ commit =
        { content := { id := sectionId, records := j.records }, warnings := j.diagnostics } := by
  unfold finish
  cases j.failed <;> simp [eq_comm]

namespace Request

def outcome (r : Request) (setup : Setup) : Except Failure Commit :=
  Compilation.finish r.sectionId (r.run setup)

def IsCommitted (r : Request) (setup : Setup) : Prop := ∃ commit, r.outcome setup = .ok commit

/-- What is committed if anything is. -/
def yield (r : Request) (setup : Setup) : Commit where
  content := { id := r.sectionId, records := (r.run setup).records }
  warnings := (r.run setup).diagnostics

def alone (r : Request) (job : Job) : Request := { r with jobs := [job] }

variable {setup : Setup} {r : Request}

theorem isCommitted_iff : r.IsCommitted setup ↔ r.outcome setup = .ok (r.yield setup) := by
  constructor
  · rintro ⟨commit, h⟩
    rw [h, (Compilation.finish_eq_ok_iff.1 h).2]
    rfl
  · exact fun h => ⟨_, h⟩

theorem isCommitted_iff_clean : r.IsCommitted setup ↔ (r.run setup).failed = false := by
  rw [isCommitted_iff, outcome, Compilation.finish_eq_ok_iff]
  exact and_iff_left rfl

theorem run_alone (r : Request) (job : Job) :
    (r.alone job).run setup = Plan.perform setup false job.tracedPlan := by
  rw [run, alone, List.flatMap_singleton]

theorem isCommitted_iff_alone :
    r.IsCommitted setup ↔ ∀ job ∈ r.jobs, (r.alone job).IsCommitted setup := by
  simp only [isCommitted_iff_clean, run_alone]
  exact Plan.clean_flatMap_iff setup Job.tracedPlan r.jobs

/-- A committed run does job by job what each job does alone. -/
theorem entries_of_isCommitted (h : r.IsCommitted setup) :
    (r.run setup).entries = r.jobs.flatMap fun job => ((r.alone job).run setup).entries := by
  have hclean : ∀ job ∈ r.jobs, (Plan.perform setup false job.tracedPlan).failed = false := by
    intro job hjob
    rw [← run_alone r job]
    exact isCommitted_iff_clean.1 (isCommitted_iff_alone.1 h job hjob)
  simp only [run_alone]
  exact Plan.entries_flatMap_of_clean setup hclean

theorem yield_eq_joined (h : r.IsCommitted setup) :
    r.yield setup =
      .joined r.sectionId (r.jobs.map fun job => (r.alone job).yield setup) := by
  simp only [yield, Commit.joined, Journal.records, Journal.diagnostics, entries_of_isCommitted h,
    List.filterMap_flatMap, List.flatMap_map]

theorem outcomes_eq_map_ok_iff {commits : List Commit} :
    r.jobs.map (fun job => (r.alone job).outcome setup) = commits.map .ok ↔
      r.IsCommitted setup ∧ commits = r.jobs.map fun job => (r.alone job).yield setup := by
  have hoks (h : r.IsCommitted setup) :
      r.jobs.map (fun job => (r.alone job).outcome setup) =
        (r.jobs.map fun job => (r.alone job).yield setup).map .ok := by
    rw [List.map_map]
    exact List.map_congr_left fun job hjob => isCommitted_iff.1 (isCommitted_iff_alone.1 h job hjob)
  constructor
  · intro h
    have hcommitted : r.IsCommitted setup := by
      rw [isCommitted_iff_alone]
      intro job hjob
      have hmem := List.mem_map_of_mem (f := fun job => (r.alone job).outcome setup) hjob
      rw [h] at hmem
      obtain ⟨commit, -, hcommit⟩ := List.mem_map.1 hmem
      exact ⟨commit, hcommit.symm⟩
    refine ⟨hcommitted, ?_⟩
    rw [hoks hcommitted] at h
    exact (List.map_inj_right fun _ _ => Except.ok.inj).1 h.symm
  · rintro ⟨hcommitted, rfl⟩
    exact hoks hcommitted

theorem outcome_eq_ok_iff_joined {commit : Commit} :
    r.outcome setup = .ok commit ↔
      ∃ commits, r.jobs.map (fun job => (r.alone job).outcome setup) = commits.map .ok ∧
        commit = .joined r.sectionId commits := by
  constructor
  · intro h
    have hcommitted : r.IsCommitted setup := ⟨commit, h⟩
    refine ⟨_, outcomes_eq_map_ok_iff.2 ⟨hcommitted, rfl⟩, ?_⟩
    rw [← yield_eq_joined hcommitted]
    exact Except.ok.inj (h.symm.trans (isCommitted_iff.1 hcommitted))
  · rintro ⟨commits, h, rfl⟩
    obtain ⟨hcommitted, rfl⟩ := outcomes_eq_map_ok_iff.1 h
    rw [← yield_eq_joined hcommitted]
    exact isCommitted_iff.1 hcommitted

theorem isCommitted_perm {jobs : List Job} (hperm : jobs.Perm r.jobs) :
    ({ r with jobs } : Request).IsCommitted setup ↔ r.IsCommitted setup := by
  rw [isCommitted_iff_alone, isCommitted_iff_alone]
  constructor
  · exact fun h job hjob => h job (hperm.mem_iff.2 hjob)
  · exact fun h job hjob => h job (hperm.mem_iff.1 hjob)

theorem outcome_perm {jobs : List Job} (hperm : jobs.Perm r.jobs) {commits : List Commit}
    (h : r.jobs.map (fun job => (r.alone job).outcome setup) = commits.map .ok) :
    ∃ permuted : List Commit, permuted.Perm commits ∧
      jobs.map (fun job => (r.alone job).outcome setup) = permuted.map .ok ∧
      ({ r with jobs } : Request).outcome setup = .ok (.joined r.sectionId permuted) := by
  obtain ⟨hcommitted, rfl⟩ := outcomes_eq_map_ok_iff.1 h
  have hjobs : jobs.map (fun job => (r.alone job).outcome setup) =
      (jobs.map fun job => (r.alone job).yield setup).map .ok :=
    (outcomes_eq_map_ok_iff (r := { r with jobs })).2 ⟨(isCommitted_perm hperm).2 hcommitted, rfl⟩
  exact ⟨_, hperm.map _, hjobs, outcome_eq_ok_iff_joined.2 ⟨_, hjobs, rfl⟩⟩

/-- What an attribute brings into the section, in whatever company. -/
theorem records_onAttribute {context : Context} {parent : Element} {attr : Attribute}
    {commit : Commit}
    (h : (r.alone (.onAttribute context parent attr)).outcome setup = .ok commit) :
    commit.content.records = [] ∨
    ∃ (id : Attribute) (game : SavedGame), parent.attribute? "Id" = some id ∧
      context.get? Context.progId = some game.progId ∧
      context.get? Context.componentId = some game.componentId ∧ game.extensionId = id.value ∧
      commit.content.records = (game.values parent.source).map .registry := by
  obtain ⟨-, rfl⟩ := Compilation.finish_eq_ok_iff.1 h
  have hrun : ((r.alone (.onAttribute context parent attr)).run setup).records =
      ((Job.onAttribute context parent attr).perform setup false).records := by
    rw [run_alone, Job.tracedPlan, Plan.perform, Journal.records_append]
    rfl
  obtain hnone | ⟨game, hasked, -, hvalues⟩ :=
    (Job.allOrNothing_onAttribute setup false context parent attr).records_cases
  · exact .inl (hrun.trans hnone)
  · obtain ⟨id, hid, hvalue⟩ := Option.map_eq_some_iff.1 hasked.id_eq
    exact .inr ⟨id, game, hid, hasked.progId_eq, hasked.componentId_eq, hvalue.symm, hrun.trans hvalues⟩

/-- The last part says of each attribute what it brings into the section, in whatever company: nothing,
or the values for the `Id` of its own parent. -/
theorem outcome_eq_ok_iff_alone (r : Request) (setup : Setup) :
    (r.IsCommitted setup ↔ ∀ job ∈ r.jobs, (r.alone job).IsCommitted setup) ∧
    (∀ commit, r.outcome setup = .ok commit ↔
      ∃ commits, r.jobs.map (fun job => (r.alone job).outcome setup) = commits.map .ok ∧
        commit = .joined r.sectionId commits) ∧
    (∀ jobs : List Job, jobs.Perm r.jobs →
      (({ r with jobs } : Request).IsCommitted setup ↔ r.IsCommitted setup) ∧
      ∀ commits : List Commit,
        r.jobs.map (fun job => (r.alone job).outcome setup) = commits.map .ok →
        ∃ permuted : List Commit, permuted.Perm commits ∧
          jobs.map (fun job => (r.alone job).outcome setup) = permuted.map .ok ∧
          ({ r with jobs } : Request).outcome setup = .ok (.joined r.sectionId permuted)) ∧
    (∀ context parent attr commit,
      (r.alone (.onAttribute context parent attr)).outcome setup = .ok commit →
      commit.content.records = [] ∨
      ∃ (id : Attribute) (game : SavedGame), parent.attribute? "Id" = some id ∧
        context.get? Context.progId = some game.progId ∧
        context.get? Context.componentId = some game.componentId ∧ game.extensionId = id.value ∧
        commit.content.records = (game.values parent.source).map .registry) := by
  refine ⟨isCommitted_iff_alone, fun _ => outcome_eq_ok_iff_joined, ?_, ?_⟩
  · intro jobs hperm
    exact ⟨isCommitted_perm hperm, fun _ h => outcome_perm hperm h⟩
  · intro context parent attr commit h
    exact records_onAttribute h

end Request

end GameRegistration
