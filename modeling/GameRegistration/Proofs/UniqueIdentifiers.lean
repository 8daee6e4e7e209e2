import GameRegistration.Proofs.References
import GameRegistration.Proofs.TaskPlaces

/-! Unique identifiers. Committed directories are distinct exactly if no component holds two games with
tasks. -/
namespace GameRegistration

namespace Translation
variable (policy : ForeignPolicy) (file : FileContext) (guid : String) (game : Element)

theorem filterMap_directoryIds :
    (Translation.game policy file guid game).filterMap (fun r => r.directory?.map (·.id)) =
      (Game.places game).map (·.id file.componentId) := by
  have htasks : ((Game.tasks game).flatMap fun t => (task file (executable file game) t.element t.kind
      t.ordinal).filterMap fun r => r.directory?.map (·.id)) =
      (Game.taskPlaces game).map (·.id file.componentId) := by
    rw [Game.taskPlaces, List.map_map, List.map_eq_flatMap]
    rfl
  rw [filterMap_game policy file guid game fun _ => rfl, htasks, Game.places, Game.rootPlaces,
    List.map_append]
  split <;> exact List.append_nil _

theorem filterMap_customActionIds :
    (Translation.game policy file guid game).filterMap (fun r => r.customAction?.map (·.id)) =
      (Game.rootPlaces game).map (·.id file.componentId) := by
  have htasks : ((Game.tasks game).flatMap fun t => (task file (executable file game) t.element t.kind
      t.ordinal).filterMap fun r => r.customAction?.map (·.id)) = [] :=
    List.flatMap_eq_nil_iff.2 fun _ _ => rfl
  rw [filterMap_game policy file guid game fun _ => rfl, htasks, Game.rootPlaces]
  split <;> rfl

theorem filterMap_shortcuts {f : ShortcutRecord → String}
    (hf : f = (·.id) ∨ f = (·.directoryRef)) :
    (Translation.game policy file guid game).filterMap (fun r => r.shortcut?.map f) =
      (Game.taskPlaces game).map (·.id file.componentId) := by
  have hroots : (if Game.Taskless game.children then [] else
      (roots game.source guid file.componentId).filterMap fun r => r.shortcut?.map f) = [] := by
    split <;> rfl
  rw [filterMap_game policy file guid game fun _ => rfl, hroots, Game.taskPlaces, List.map_map,
    List.map_eq_flatMap, List.nil_append]
  refine (List.append_nil _).trans (List.flatMap_congr fun t _ => ?_)
  obtain ⟨hid, href⟩ := shortcut_directory file (executable file game)
    (t.place.id file.componentId) t.element ((t.element.ownValue? "Name").getD "") t.kind
  obtain rfl | rfl := hf
  · exact congrArg (fun id => [id]) hid
  · exact congrArg (fun id => [id]) href

end Translation

namespace Game
variable {places : Element → List Task.Place} {games : List (FileContext × Element)}

def taskOwner? (g : FileContext × Element) : Option String :=
  if Taskless g.2.children then none else some g.1.componentId

def idsOf (places : Element → List Task.Place) (g : FileContext × Element) : List String :=
  (places g.2).map (·.id g.1.componentId)

theorem taskOwner?_of_mem_places {g : FileContext × Element} {p : Task.Place}
    (h : p ∈ Game.places g.2) : taskOwner? g = some g.1.componentId := by
  refine if_neg fun htaskless => ?_
  rw [places_eq_nil htaskless] at h
  cases h

theorem root_id_mem_idsOf {g : FileContext × Element} {component : String}
    (hroots : rootPlaces g.2 ⊆ places g.2) (h : taskOwner? g = some component) :
    Task.Place.id (.root .play) component ∈ idsOf places g := by
  unfold taskOwner? at h
  split at h
  · cases h
  · rename_i htasks
    cases h
    refine List.mem_map_of_mem (hroots ?_)
    rw [rootPlaces, if_neg htasks]
    exact List.mem_cons_self

theorem nodup_ids_of_nodup_owners (hsub : ∀ game, places game ⊆ Game.places game)
    (hplaces : ∀ g ∈ games, (places g.2).Nodup) (h : (games.filterMap taskOwner?).Nodup) :
    (games.flatMap (idsOf places)).Nodup := by
  rw [List.nodup_flatMap]
  constructor
  · exact fun g hg => (hplaces g hg).map fun _ _ hid => (Task.Place.id_inj.1 hid).1
  · -- an identifier that two games share names the component of both
    refine (List.pairwise_filterMap.1 h).imp ?_
    intro g g' howners id hid hid'
    obtain ⟨p, hp, rfl⟩ := List.mem_map.1 hid
    obtain ⟨q, hq, hpq⟩ := List.mem_map.1 hid'
    exact howners _ (taskOwner?_of_mem_places (hsub g.2 hp)) _
      (taskOwner?_of_mem_places (hsub g'.2 hq)) (Task.Place.id_inj.1 hpq).2.symm

theorem nodup_owners_of_nodup_ids (hroots : ∀ game, rootPlaces game ⊆ places game)
    (h : (games.flatMap (idsOf places)).Nodup) : (games.filterMap taskOwner?).Nodup := by
  refine List.pairwise_filterMap.2 ((List.nodup_flatMap.1 h).2.imp ?_)
  rintro g g' hdisjoint component howner _ howner' rfl
  exact hdisjoint (root_id_mem_idsOf (hroots g.2) howner) (root_id_mem_idsOf (hroots g'.2) howner')

theorem nodup_ids_iff (hroots : ∀ game, rootPlaces game ⊆ places game)
    (hsub : ∀ game, places game ⊆ Game.places game) (hplaces : ∀ g ∈ games, (places g.2).Nodup) :
    (games.flatMap (idsOf places)).Nodup ↔ (games.filterMap taskOwner?).Nodup :=
  ⟨nodup_owners_of_nodup_ids hroots, nodup_ids_of_nodup_owners hsub hplaces⟩

end Game

/-- The component in effect where the job stands, if the job is a game with tasks. -/
def Job.taskComponent? (job : Job) : Option String :=
  job.game?.bind fun (_, game) =>
    if Game.Taskless game.children then none else job.context.get? Context.componentId

theorem Job.taskComponent?_eq (job : Job) :
    job.taskComponent? = job.game?.bind Game.taskOwner? := by
  unfold taskComponent?
  cases hgame : job.game? with
  | none => rfl
  | some g =>
    rw [Option.bind_some, Option.bind_some, (context_of_game? hgame).2.2.1]
    rfl

theorem Job.taskCount_lt_of_length_lt {jobs : List Job}
    (h : ∀ g ∈ jobs.filterMap Job.game?, g.2.children.length < UInt32.size) :
    ∀ job ∈ jobs, ∀ file game, job.game? = some (file, game) →
      ∀ kind, Game.taskCount kind game.children < UInt32.size := by
  intro job hjob file game hgame kind
  have hcount : Game.taskCount kind game.children ≤ game.children.length := List.countP_le_length
  have hlength := h (file, game) (List.mem_filterMap.2 ⟨job, hjob, hgame⟩)
  exact Nat.lt_of_le_of_lt hcount hlength

namespace Sample

def otherContext : Context where
  entries :=
    [("FileId", "OtherExe"), ("ComponentId", "OtherComp"), ("DirectoryId", "INSTALLFOLDER")]

def separateGames : Request where
  sectionId := "product"
  jobs := [flawlessJob, savedGame, .onElement otherContext file mixedGame]

end Sample

namespace Request
variable {setup : Setup} {r : Request}

theorem filterMap_taskComponent? (r : Request) :
    r.jobs.filterMap Job.taskComponent? =
      (r.jobs.filterMap Job.game?).filterMap Game.taskOwner? := by
  rw [List.filterMap_filterMap]
  exact List.filterMap_congr fun job _ => job.taskComponent?_eq

theorem directoryIds_of_isCommitted (h : r.IsCommitted setup) :
    (r.run setup).records.filterMap (fun record => record.directory?.map (·.id)) =
      (r.jobs.filterMap Job.game?).flatMap (Game.idsOf Game.places) :=
  filterMap_of_isCommitted h (fun _ => rfl) fun file game guid _ =>
    Translation.filterMap_directoryIds setup.foreign file guid.text game

theorem customActionIds_of_isCommitted (h : r.IsCommitted setup) :
    (r.run setup).records.filterMap (fun record => record.customAction?.map (·.id)) =
      (r.jobs.filterMap Job.game?).flatMap (Game.idsOf Game.rootPlaces) :=
  filterMap_of_isCommitted h (fun _ => rfl) fun file game guid _ =>
    Translation.filterMap_customActionIds setup.foreign file guid.text game

theorem shortcuts_of_isCommitted (h : r.IsCommitted setup) {f : ShortcutRecord → String}
    (hf : f = (·.id) ∨ f = (·.directoryRef)) :
    (r.run setup).records.filterMap (fun record => record.shortcut?.map f) =
      (r.jobs.filterMap Job.game?).flatMap (Game.idsOf Game.taskPlaces) :=
  filterMap_of_isCommitted h (fun _ => rfl) fun file game guid _ =>
    Translation.filterMap_shortcuts setup.foreign file guid.text game hf

/-- In each directory of a task lies one shortcut and no other. -/
theorem countP_shortcuts (h : r.IsCommitted setup)
    (hnodup : ((r.run setup).records.filterMap (·.shortcut?.map (·.directoryRef))).Nodup)
    {d : DirectoryRecord} (hd : .directory d ∈ (r.run setup).records) (htask : ¬ d.IsRoot) :
    ((r.run setup).records.filterMap Record.shortcut?).countP (·.directoryRef == d.id) = 1 := by
  obtain hroot | ⟨s, hs, hdirectory⟩ := complete_of_isCommitted h _ hd
  · exact absurd hroot htask
  · have hmem : d.id ∈ (r.run setup).records.filterMap (·.shortcut?.map (·.directoryRef)) :=
      List.mem_filterMap.2 ⟨_, hs, congrArg some hdirectory⟩
    have hcount := List.count_eq_one_of_mem hnodup hmem
    rw [← List.map_filterMap, List.count, List.countP_map] at hcount
    exact hcount

/-- Two games with tasks in one component give the same directories twice. -/
theorem directories_nodup_iff (r : Request) (setup : Setup) (commit : Commit)
    (h : r.outcome setup = .ok commit)
    (hfit : ∀ job ∈ r.jobs, ∀ file game, job.game? = some (file, game) →
      ∀ kind, Game.taskCount kind game.children < UInt32.size) :
    ((commit.content.directories.map (·.id)).Nodup ↔
      (r.jobs.filterMap Job.taskComponent?).Nodup) ∧
    ((commit.content.customActions.map (·.id)).Nodup ↔
      (r.jobs.filterMap Job.taskComponent?).Nodup) ∧
    ((r.jobs.filterMap Job.taskComponent?).Nodup →
      (commit.content.shortcuts.map (·.id)).Nodup ∧
      ∀ d ∈ commit.content.directories, ¬ d.IsRoot →
        commit.content.shortcuts.countP (·.directoryRef == d.id) = 1) := by
  have hcommitted : r.IsCommitted setup := ⟨commit, h⟩
  have hgames : ∀ g ∈ r.jobs.filterMap Job.game?, ∀ kind,
      Game.taskCount kind g.2.children < UInt32.size := by
    intro g hg
    obtain ⟨job, hjob, hgame⟩ := List.mem_filterMap.1 hg
    exact hfit job hjob g.1 g.2 hgame
  rw [filterMap_taskComponent?, (Compilation.finish_eq_ok_iff.1 h).2]
  simp only [Section.directories, Section.customActions, Section.shortcuts, List.map_filterMap]
  rw [directoryIds_of_isCommitted hcommitted, customActionIds_of_isCommitted hcommitted,
    shortcuts_of_isCommitted hcommitted (.inl rfl)]
  refine ⟨?_, ?_, fun howners => ?_⟩
  · exact Game.nodup_ids_iff (fun _ => List.subset_append_left ..) (fun _ => List.Subset.refl _)
      fun g hg => Game.nodup_places (hgames g hg)
  · exact Game.nodup_ids_iff (fun _ => List.Subset.refl _) (fun _ => List.subset_append_left ..)
      fun g _ => Game.nodup_rootPlaces g.2
  · have htasks : ((r.jobs.filterMap Job.game?).flatMap (Game.idsOf Game.taskPlaces)).Nodup :=
      Game.nodup_ids_of_nodup_owners (fun _ => List.subset_append_right ..)
        (fun g hg => Game.nodup_taskPlaces (hgames g hg)) howners
    refine ⟨htasks, fun d hd htask => ?_⟩
    rw [← shortcuts_of_isCommitted hcommitted (.inr rfl)] at htasks
    obtain ⟨record, hrecord, hdirectory⟩ := List.mem_filterMap.1 hd
    cases record with
    | directory d' =>
      cases hdirectory
      exact countP_shortcuts hcommitted htasks hrecord htask
    | _ => cases hdirectory

/-- Games in two components keep their directories apart, games in one do not. -/
theorem directories_of_two_games :
    (∃ commit, Sample.separateGames.outcome Sample.accepting = .ok commit ∧
      (commit.content.directories.map (·.id)).Nodup ∧
      (commit.content.customActions.map (·.id)).Nodup ∧
      (commit.content.shortcuts.map (·.id)).Nodup) ∧
    ∃ commit, Sample.request.outcome Sample.accepting = .ok commit ∧
      ¬ (commit.content.directories.map (·.id)).Nodup := by
  constructor
  · obtain ⟨commit, h⟩ : Sample.separateGames.IsCommitted Sample.accepting :=
      isCommitted_iff_clean.2 (by decide)
    have howners : (Sample.separateGames.jobs.filterMap Job.taskComponent?).Nodup := by decide
    obtain ⟨hdirectories, hactions, hshortcuts⟩ := directories_nodup_iff Sample.separateGames
      Sample.accepting commit h (Job.taskCount_lt_of_length_lt (by decide))
    exact ⟨commit, h, hdirectories.2 howners, hactions.2 howners, (hshortcuts howners).1⟩
  · obtain ⟨commit, h⟩ : Sample.request.IsCommitted Sample.accepting :=
      isCommitted_iff_clean.2 (by decide)
    have howners : ¬ (Sample.request.jobs.filterMap Job.taskComponent?).Nodup := by decide
    obtain ⟨hdirectories, -⟩ := directories_nodup_iff Sample.request Sample.accepting commit h
      (Job.taskCount_lt_of_length_lt (by decide))
    exact ⟨commit, h, fun hnodup => howners (hdirectories.1 hnodup)⟩

end Request

end GameRegistration
