import Mathlib.Data.List.Basic
import GameRegistration.Proofs.GameRecords
import GameRegistration.Proofs.Independence

/-! What a job brings into a committed section: a game its translation, an attribute registry values
or nothing. Every record and every entry comes from one job. -/
namespace GameRegistration

theorem Context.failed_require (setup : Setup) (c : Context) (key element : String)
    (source : SourcePosition) :
    (performAll setup (c.require key element source).actions).failed = (c.get? key).isNone := by
  unfold require
  cases c.get? key <;> rfl

theorem FileContext.failed_resolve (setup : Setup) (c : Context) (element : String)
    (source : SourcePosition) :
    (performAll setup (resolve c element source).actions).failed =
      (resolve c element source).value.isNone := by
  simp only [resolve, performAll_append, Journal.failed_append, Context.failed_require]
  change _ = (((c.get? Context.fileId).bind fun _ => (c.get? Context.componentId).bind fun _ =>
    (c.get? Context.directoryId).bind fun _ => some _) : Option FileContext).isNone
  cases c.get? Context.fileId <;> cases c.get? Context.componentId <;>
    cases c.get? Context.directoryId <;> rfl

namespace Job
variable {setup : Setup} {job : Job} {file : FileContext} {game : Element}

def context : Job → Context
  | .onElement context _ _ => context
  | .onAttribute context _ _ => context

/-- The game that a job compiles, and the file that starts it. -/
def game? : Job → Option (FileContext × Element)
  | .onElement context parent element =>
    if parent.localName = "File" ∧ element.localName = "Game" then
      (FileContext.resolve context element.localName element.source).value.map (·, element)
    else none
  | .onAttribute .. => none

theorem context_of_game? (h : job.game? = some (file, game)) :
    (∃ parent, parent.localName = "File" ∧ game.localName = "Game" ∧
      job = .onElement job.context parent game) ∧
    job.context.get? Context.fileId = some file.fileId ∧
    job.context.get? Context.componentId = some file.componentId ∧
    job.context.get? Context.directoryId = some file.directoryId := by
  cases job with
  | onAttribute context parent attr => cases h
  | onElement context parent element =>
    rw [game?] at h
    by_cases hnames : parent.localName = "File" ∧ element.localName = "Game"
    · rw [if_pos hnames, Option.map_eq_some_iff] at h
      obtain ⟨file', hresolve, hpair⟩ := h
      cases hpair
      simp only [FileContext.resolve, Context.require, Option.bind_eq_bind, Option.bind_eq_some_iff,
        Option.pure_def, Option.some.injEq] at hresolve
      obtain ⟨fileId, hfile, componentId, hcomponent, directoryId, hdirectory, rfl⟩ := hresolve
      exact ⟨⟨parent, hnames.1, hnames.2, rfl⟩, hfile, hcomponent, hdirectory⟩
    · rw [if_neg hnames] at h
      cases h

theorem plan_of_game? (h : job.game? = some (file, game)) : job.plan = Game.plan game file := by
  obtain ⟨⟨parent, hparent, hgame, hjob⟩, hfile, hcomponent, hdirectory⟩ := context_of_game? h
  rw [hjob, plan]
  exact elementPlan_of_context hparent hgame hfile hcomponent hdirectory

theorem onAttribute_of_game?_eq_none (h : job.game? = none)
    (hclean : (Plan.perform setup false job.plan).failed = false) :
    ∃ context parent attr, job = .onAttribute context parent attr := by
  cases job with
  | onAttribute context parent attr => exact ⟨context, parent, attr, rfl⟩
  | onElement context parent element =>
    rw [plan, elementPlan] at hclean
    rw [game?] at h
    by_cases hnames : parent.localName = "File" ∧ element.localName = "Game"
    · rw [if_pos hnames, Option.map_eq_none_iff] at h
      rw [if_pos hnames] at hclean
      dsimp only at hclean
      rw [Plan.perform_append, Journal.failed_append, Plan.perform_ofActions,
        FileContext.failed_resolve, h] at hclean
      cases hclean
    · rw [if_neg hnames] at hclean
      cases hclean

theorem game?_of_clean {context : Context} {parent element : Element}
    (hclean : (Plan.perform setup false (onElement context parent element).plan).failed = false) :
    ∃ file, (onElement context parent element).game? = some (file, element) := by
  cases hgame : (onElement context parent element).game? with
  | none =>
    obtain ⟨_, _, _, hjob⟩ := onAttribute_of_game?_eq_none hgame hclean
    cases hjob
  | some pair =>
    obtain ⟨⟨_, -, -, hjob⟩, -⟩ := context_of_game? hgame
    cases hjob
    exact ⟨pair.1, rfl⟩

theorem records_of_game?_eq_none (h : job.game? = none)
    (hclean : (Plan.perform setup false job.plan).failed = false) :
    ∃ values : List RegistryRecord,
      (Plan.perform setup false job.plan).records = values.map .registry := by
  obtain ⟨context, parent, attr, rfl⟩ := onAttribute_of_game?_eq_none h hclean
  obtain hnone | ⟨saved, -, -, hrecords⟩ :=
    (allOrNothing_onAttribute setup false context parent attr).records_cases
  · exact ⟨[], hnone⟩
  · exact ⟨saved.values parent.source, hrecords⟩

theorem guid_of_game? (h : job.game? = some (file, game))
    (hclean : (Plan.perform setup false job.plan).failed = false) :
    ∃ guid, (game.ownValue? "Id").bind Guid.parse? = some guid ∧
      (Plan.perform setup false job.plan).records =
        Translation.game setup.foreign file guid.text game := by
  rw [plan_of_game? h] at hclean ⊢
  rw [Plan.perform_of_clean setup hclean]
  rw [Plan.perform_of_clean setup hclean] at hclean
  obtain ⟨⟨guid, hguid, hid⟩, -⟩ := Game.required_of_clean hclean
  exact ⟨guid, hguid, Game.yields_plan file hid hclean⟩

end Job

namespace Request
variable {setup : Setup} {r : Request}

theorem run_alone_eq (r : Request) (job : Job) :
    (r.alone job).run setup = Journal.note job.event ++ Plan.perform setup false job.plan := by
  rw [run_alone]
  rfl

theorem records_alone (r : Request) (job : Job) :
    ((r.alone job).run setup).records = (Plan.perform setup false job.plan).records := by
  rw [run_alone_eq, Journal.records_append]
  rfl

theorem clean_of_isCommitted (h : r.IsCommitted setup) {job : Job} (hjob : job ∈ r.jobs) :
    (Plan.perform setup false job.plan).failed = false := by
  have hclean := isCommitted_iff_clean.1 (isCommitted_iff_alone.1 h job hjob)
  rw [run_alone_eq, Journal.failed_append, Bool.or_eq_false_iff] at hclean
  exact hclean.2

theorem records_of_isCommitted (h : r.IsCommitted setup) :
    (r.run setup).records =
      r.jobs.flatMap fun job => (Plan.perform setup false job.plan).records := by
  simp only [Journal.records, entries_of_isCommitted h, List.filterMap_flatMap]
  exact List.flatMap_congr fun job _ => records_alone r job

/-- What a view shows of a committed section it shows of the games, if it leaves out the registry. -/
theorem filterMap_of_isCommitted {β : Type} {f : Record → Option β}
    {g : FileContext × Element → List β} (h : r.IsCommitted setup)
    (hregistry : ∀ value, f (.registry value) = none)
    (hgame : ∀ file game guid, (game.ownValue? "Id").bind Guid.parse? = some guid →
      (Translation.game setup.foreign file guid.text game).filterMap f = g (file, game)) :
    (r.run setup).records.filterMap f = (r.jobs.filterMap Job.game?).flatMap g := by
  rw [records_of_isCommitted h, List.filterMap_flatMap, List.filterMap_eq_flatMap_toList,
    List.flatMap_assoc]
  refine List.flatMap_congr fun job hjob => ?_
  have hclean := clean_of_isCommitted h hjob
  cases hjobGame : job.game? with
  | none =>
    obtain ⟨values, hvalues⟩ := Job.records_of_game?_eq_none hjobGame hclean
    rw [hvalues, List.filterMap_map]
    exact List.filterMap_eq_nil_iff.2 fun value _ => hregistry value
  | some pair =>
    obtain ⟨guid, hguid, hrecords⟩ := Job.guid_of_game? hjobGame hclean
    rw [hrecords, hgame _ _ guid hguid]
    simp

end Request

end GameRegistration
