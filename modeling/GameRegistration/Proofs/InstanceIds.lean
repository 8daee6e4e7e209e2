import Mathlib.Data.List.Nodup
import GameRegistration.Schema
import GameRegistration.Proofs.GuidText
import GameRegistration.Proofs.JobRecords
import GameRegistration.Proofs.TranslationViews

/-! Instance identifiers of a committed section are the GUIDs of its games in their written form.
Nothing compares two games, so that a GUID may be used again. -/
namespace GameRegistration

/-- The GUID that a job gives its game, in whatever spelling. -/
def Job.guid? (job : Job) : Option Guid :=
  job.game?.bind fun (_, game) => (game.ownValue? "Id").bind Guid.parse?

namespace Sample

/-- Two games without tasks; the first has the usual `Id`. -/
def gamesWithIds (second : String) : Request where
  sectionId := "product"
  jobs := [job (game [] []), job (element "Game" [("Id", second)])]

def distinctGuids : Request := gamesWithIds "87654321-1234-5678-90ab-1234567890ab"

def repeatedGuid : Request := gamesWithIds "\x7b12345678-1234-5678-90AB-1234567890AB\x7d"

end Sample

namespace Request
variable {setup : Setup} {r : Request}

theorem instanceIds_of_isCommitted (h : r.IsCommitted setup) :
    (r.run setup).records.filterMap (fun record => record.game?.map (·.instanceId)) =
      (r.jobs.filterMap Job.guid?).map Guid.text := by
  have hview := filterMap_of_isCommitted (f := fun record => record.game?.map (·.instanceId))
    (g := fun g => (((g.2.ownValue? "Id").bind Guid.parse?).map Guid.text).toList) h
    (fun _ => rfl) fun file game guid hguid => by
      rw [hguid, ← List.map_filterMap, Translation.games_game]
      rfl
  rw [hview, ← List.filterMap_eq_flatMap_toList, List.filterMap_filterMap, List.map_filterMap]
  refine List.filterMap_congr fun job _ => ?_
  rw [Job.guid?]
  cases job.game? <;> rfl

/-- The primary key of the games' table is one as long as no two jobs give the same GUID. -/
theorem instanceIds_nodup_iff (r : Request) (setup : Setup) (commit : Commit)
    (h : r.outcome setup = .ok commit) :
    commit.content.games.map (·.instanceId) = (r.jobs.filterMap Job.guid?).map Guid.text ∧
    ((commit.content.games.map (·.instanceId)).Nodup ↔ (r.jobs.filterMap Job.guid?).Nodup) := by
  have hids : commit.content.games.map (·.instanceId) =
      (r.jobs.filterMap Job.guid?).map Guid.text := by
    rw [(Compilation.finish_eq_ok_iff.1 h).2, Section.games, List.map_filterMap]
    exact instanceIds_of_isCommitted ⟨commit, h⟩
  refine ⟨hids, ?_⟩
  rw [hids]
  exact List.nodup_map_iff Guid.text_injective

theorem instanceIds_of_two_games : ∃ commit, Sample.distinctGuids.outcome {} = .ok commit ∧
    (commit.content.games.map (·.instanceId)).Nodup := by
  obtain ⟨commit, h⟩ : Sample.distinctGuids.IsCommitted {} := isCommitted_iff_clean.2 (by decide)
  have hguids : (Sample.distinctGuids.jobs.filterMap Job.guid?).Nodup := by
    rw [← List.nodup_map_iff Guid.text_injective]
    decide
  exact ⟨commit, h, (instanceIds_nodup_iff Sample.distinctGuids {} commit h).2.2 hguids⟩

/-- Every row is taken, and both have the same key. -/
theorem repeated_instanceId : ∃ commit, Sample.repeatedGuid.outcome {} = .ok commit ∧
    commit.content.violation? = none ∧ ¬ (commit.content.games.map (·.instanceId)).Nodup :=
  ⟨_, isCommitted_iff.1 (isCommitted_iff_clean.2 (by decide)), by decide, by decide⟩

end Request

end GameRegistration
