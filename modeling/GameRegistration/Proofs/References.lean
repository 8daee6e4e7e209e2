import GameRegistration.Proofs.JobRecords
import GameRegistration.Proofs.TranslationViews

/-! References between the records of a committed section: what a record refers to stands before it,
and every file it names is the authored one or is asked for. -/
namespace GameRegistration

/-- Roots lie in the target directory, and all other directories hold a task. -/
def DirectoryRecord.IsRoot (d : DirectoryRecord) : Prop := d.parentRef = Task.targetDirectory

namespace Record

/-- What the record refers to is among the earlier ones. -/
def RefersTo (earlier : List Record) : Record → Prop
  | .directory d =>
    d.IsRoot ∨ ∃ root, .directory root ∈ earlier ∧ root.IsRoot ∧ root.id = d.parentRef
  | .customAction c =>
    c.property = c.id ∧ ∃ root, .directory root ∈ earlier ∧ root.IsRoot ∧ root.id = c.id
  | .schedule a => ∃ c, .customAction c ∈ earlier ∧ c.id = a.action
  | .shortcut s =>
    s.id = s.directoryRef ∧ ∃ d, .directory d ∈ earlier ∧ ¬ d.IsRoot ∧ d.id = s.directoryRef
  | .game _ | .registry _ | .reference _ => True

/-- A directory of a task holds a shortcut, a custom action is scheduled, and with a game goes a
reference to the action that registers games. -/
def IsServed (all : List Record) : Record → Prop
  | .directory d => d.IsRoot ∨ ∃ s, .shortcut s ∈ all ∧ s.directoryRef = d.id
  | .customAction c => ∃ a, .schedule a ∈ all ∧ a.action = c.id
  | .game _ =>
    ∃ ref, .reference ref ∈ all ∧ ref.table = "CustomAction" ∧ ref.primaryKeys = Game.scheduleAction
  | .schedule _ | .shortcut _ | .registry _ | .reference _ => True

/-- Registry values and references refer to nothing and need nothing. -/
def isInert : Record → Bool
  | .registry _ | .reference _ => true
  | _ => false

theorem refersTo_of_isInert {r : Record} (h : r.isInert = true) (earlier : List Record) :
    r.RefersTo earlier := by
  cases r with
  | registry | reference => trivial
  | _ => cases h

theorem isServed_of_isInert {r : Record} (h : r.isInert = true) (all : List Record) :
    r.IsServed all := by
  cases r with
  | registry | reference => trivial
  | _ => cases h

theorem RefersTo.mono {earlier earlier' : List Record} {r : Record} (h : r.RefersTo earlier)
    (hsub : earlier ⊆ earlier') : r.RefersTo earlier' := by
  cases r with
  | directory d => exact h.imp_right fun ⟨root, hmem, hroot⟩ => ⟨root, hsub hmem, hroot⟩
  | customAction c => exact ⟨h.1, h.2.imp fun _ hroot => ⟨hsub hroot.1, hroot.2⟩⟩
  | schedule a => exact h.imp fun _ haction => ⟨hsub haction.1, haction.2⟩
  | shortcut s => exact ⟨h.1, h.2.imp fun _ hdir => ⟨hsub hdir.1, hdir.2⟩⟩
  | _ => trivial

theorem IsServed.mono {all all' : List Record} {r : Record} (h : r.IsServed all)
    (hsub : all ⊆ all') : r.IsServed all' := by
  cases r with
  | directory d => exact h.imp_right fun ⟨s, hmem, hs⟩ => ⟨s, hsub hmem, hs⟩
  | customAction c => exact h.imp fun _ ha => ⟨hsub ha.1, ha.2⟩
  | game g => exact h.imp fun _ href => ⟨hsub href.1, href.2⟩
  | _ => trivial

end Record

/-- Each record refers to earlier ones, of this list or known before it. -/
def Linked (known : List Record) : List Record → Prop
  | [] => True
  | r :: rest => r.RefersTo known ∧ Linked (known ++ [r]) rest

def Complete (records : List Record) : Prop := ∀ r ∈ records, r.IsServed records

namespace Linked
variable {known a b : List Record}

theorem append_iff : Linked known (a ++ b) ↔ Linked known a ∧ Linked (known ++ a) b := by
  induction a generalizing known with
  | nil => simp [Linked]
  | cons r rest ih => simp [Linked, ih, and_assoc]

theorem append (ha : Linked known a) (hb : Linked (known ++ a) b) : Linked known (a ++ b) :=
  append_iff.2 ⟨ha, hb⟩

theorem mono {known' : List Record} (h : Linked known a) (hsub : known ⊆ known') :
    Linked known' a := by
  induction a generalizing known known' with
  | nil => trivial
  | cons r rest ih =>
    exact ⟨h.1.mono hsub, ih h.2 (List.append_subset.2
      ⟨List.Subset.trans hsub (List.subset_append_left ..), List.subset_append_right ..⟩)⟩

theorem refersTo {r : Record} (h : Linked known (a ++ r :: b)) : r.RefersTo (known ++ a) :=
  (append_iff.1 h).2.1

theorem of_isInert (h : ∀ r ∈ a, r.isInert = true) : Linked known a := by
  induction a generalizing known with
  | nil => trivial
  | cons r rest ih =>
    rw [List.forall_mem_cons] at h
    exact ⟨r.refersTo_of_isInert h.1 known, ih h.2⟩

/-- Lists that need nothing from outside may stand in any order. -/
theorem flatMap {α : Type} {f : α → List Record} {xs : List α} (h : ∀ x ∈ xs, Linked [] (f x)) :
    Linked known (xs.flatMap f) := by
  induction xs generalizing known with
  | nil => trivial
  | cons x rest ih =>
    rw [List.flatMap_cons]
    exact append ((h x List.mem_cons_self).mono (List.nil_subset _))
      (ih fun y hy => h y (List.mem_cons_of_mem x hy))

end Linked

namespace Complete

theorem of_isInert {a : List Record} (h : ∀ r ∈ a, r.isInert = true) : Complete a :=
  fun r hr => r.isServed_of_isInert (h r hr) a

theorem append {a b : List Record} (ha : Complete a) (hb : Complete b) : Complete (a ++ b) := by
  intro r hr
  obtain hr | hr := List.mem_append.1 hr
  · exact (ha r hr).mono (List.subset_append_left ..)
  · exact (hb r hr).mono (List.subset_append_right ..)

theorem flatten {lists : List (List Record)} (h : ∀ l ∈ lists, Complete l) :
    Complete lists.flatten := by
  intro r hr
  obtain ⟨l, hl, hr⟩ := List.mem_flatten.1 hr
  exact (h l hl r hr).mono fun x hx => List.mem_flatten.2 ⟨l, hl, hx⟩

end Complete

theorem ForeignPolicy.isInert_records (policy : ForeignPolicy) (nodes : List ForeignNode) :
    ∀ r ∈ policy.records nodes, r.isInert = true := by
  intro r hr
  cases policy with
  | accept =>
    obtain ⟨node, -, rfl⟩ := List.mem_map.1 hr
    rfl
  | reject => cases hr
  | warn => cases hr

/-- The roots of both kinds of tasks are there. -/
def HasRoots (known : List Record) (component : String) : Prop :=
  ∀ kind : TaskKind, ∃ root, .directory root ∈ known ∧ root.IsRoot ∧
    root.id = kind.rootStem ++ "_" ++ component

theorem HasRoots.mono {known known' : List Record} {component : String}
    (h : HasRoots known component) (hsub : known ⊆ known') : HasRoots known' component :=
  fun kind => (h kind).imp fun _ hroot => ⟨hsub hroot.1, hroot.2⟩

namespace Translation
variable {known : List Record}

theorem hasRoots_roots (source : SourcePosition) (guid component : String) :
    HasRoots (roots source guid component) component := by
  intro kind
  cases kind with
  | play => exact ⟨_, List.mem_cons_self, rfl, rfl⟩
  | support => exact ⟨_, List.mem_cons_of_mem _ List.mem_cons_self, rfl, rfl⟩

theorem linked_rootActions {component : String} (hroots : HasRoots known component)
    (source : SourcePosition) (guid : String) (kind : TaskKind) :
    Linked known
      (Task.rootActions source guid (Identifier.compose kind.rootStem component) kind) :=
  ⟨⟨rfl, hroots kind⟩, ⟨_, List.mem_append_right _ List.mem_cons_self, rfl⟩, trivial⟩

theorem linked_roots (source : SourcePosition) (guid component : String) :
    Linked known (roots source guid component) := by
  let directory (kind : TaskKind) : Record :=
    .directory (Task.rootDirectory source (Identifier.compose kind.rootStem component))
  have hlinked : Linked known [directory .play, directory .support] := ⟨.inl rfl, .inl rfl, trivial⟩
  have hroots : HasRoots (known ++ [directory .play, directory .support]) component := by
    intro kind
    refine ⟨_, List.mem_append_right known (?_ : directory kind ∈ _), rfl, rfl⟩
    cases kind <;> simp
  have hplay := linked_rootActions hroots source guid .play
  have hsupport := linked_rootActions (hroots.mono (List.subset_append_left _
    (Task.rootActions source guid (Identifier.compose TaskKind.play.rootStem component) .play)))
    source guid .support
  rw [Game.roots_eq]
  rw [List.append_assoc] at hsupport
  exact (hlinked.append hplay).append hsupport

theorem complete_roots (source : SourcePosition) (guid component : String) :
    Complete (roots source guid component) := by
  simp [roots, Complete, Record.IsServed, DirectoryRecord.IsRoot, Task.targetDirectory]

theorem shortcut_directory (file : FileContext) (executable directory : String) (task : Element)
    (name : String) (kind : TaskKind) :
    (shortcut file executable directory task name kind).id = directory ∧
      (shortcut file executable directory task name kind).directoryRef = directory := by
  cases kind <;> exact ⟨rfl, rfl⟩

theorem linked_task {file : FileContext} (hroots : HasRoots known file.componentId)
    (executable : String) (element : Element) (kind : TaskKind) (ordinal : UInt32) :
    Linked known (task file executable element kind ordinal) := by
  obtain ⟨hid, href⟩ := shortcut_directory file executable
    (kind.taskStem ++ toString ordinal ++ "_" ++ file.componentId) element
    ((element.ownValue? "Name").getD "") kind
  refine ⟨.inr (hroots kind), ⟨hid.trans href.symm, ?_⟩, trivial⟩
  refine ⟨_, List.mem_append_right _ List.mem_cons_self, ?_, href.symm⟩
  exact Task.rootId_ne_targetDirectory kind file.componentId

theorem complete_task (file : FileContext) (executable : String) (element : Element)
    (kind : TaskKind) (ordinal : UInt32) :
    Complete (task file executable element kind ordinal) := by
  have hid := shortcut_directory file executable
    (kind.taskStem ++ toString ordinal ++ "_" ++ file.componentId) element
    ((element.ownValue? "Name").getD "") kind
  unfold task Complete
  simp [Record.IsServed, hid.2]

variable (policy : ForeignPolicy) (file : FileContext) (guid : String) (game : Element)

theorem hasRoots_child {before : List Element} (c : Element)
    (hroots : ¬ Game.Taskless before → HasRoots known file.componentId)
    (hafter : ¬ Game.Taskless (before ++ [c])) :
    HasRoots (known ++ child policy file guid game before c) file.componentId := by
  by_cases hbefore : Game.Taskless before
  · cases hrole : Game.childRole c with
    | task kind =>
      rw [child, hrole]
      dsimp only
      rw [if_pos hbefore]
      refine (hasRoots_roots game.source guid file.componentId).mono ?_
      intro r hr
      simp [hr]
    | _ =>
      have hc : Game.Taskless [c] := Game.taskless_singleton_iff.2 (by simp [hrole])
      exact absurd (Game.taskless_append_iff.2 ⟨hbefore, hc⟩) hafter
  · exact (hroots hbefore).mono (List.subset_append_left ..)

theorem linked_child {before : List Element} (c : Element)
    (hroots : ¬ Game.Taskless before → HasRoots known file.componentId) :
    Linked known (child policy file guid game before c) := by
  have hforeign {known : List Record} (nodes : List ForeignNode) :
      Linked known (policy.records nodes) := Linked.of_isInert (policy.isInert_records nodes)
  unfold child
  cases Game.childRole c with
  | foreign => exact hforeign _
  | unexpected => trivial
  | task kind =>
    dsimp only
    by_cases hbefore : Game.Taskless before
    · rw [if_pos hbefore]
      refine ((linked_roots ..).append (hforeign _)).append (linked_task ?_ _ _ _ _)
      refine (hasRoots_roots game.source guid file.componentId).mono ?_
      intro r hr
      simp [hr]
    · rw [if_neg hbefore]
      refine (hforeign _).append (linked_task ?_ _ _ _ _)
      exact (hroots hbefore).mono (List.subset_append_left ..)

theorem linked_children (before : List Element)
    (hroots : ¬ Game.Taskless before → HasRoots known file.componentId) (rest : List Element) :
    Linked known (rest.mapIdx fun i c => child policy file guid game
      ((before ++ rest).take (before.length + i)) c).flatten := by
  -- the records known grow with the children behind the walk
  induction rest generalizing before known with
  | nil => trivial
  | cons c rest ih =>
    rw [mapIdx_take_cons (child policy file guid game), List.flatten_cons]
    exact (linked_child policy file guid game c hroots).append
      (ih (before ++ [c]) (hasRoots_child policy file guid game c hroots))

theorem isInert_fileReferences : ∀ r ∈ ([definition file game, executable file game].filter
    (· != file.fileId)).map (reference game "File"), r.isInert = true := by
  intro r hr
  obtain ⟨_, -, rfl⟩ := List.mem_map.1 hr
  rfl

theorem linked_game : Linked known (Translation.game policy file guid game) := by
  have hchildren : Linked (known ++ policy.records game.foreignAttributes) _ :=
    linked_children policy file guid game [] (fun h => absurd ⟨rfl, rfl⟩ h) game.children
  simp only [List.nil_append, List.length_nil, Nat.zero_add] at hchildren
  have hattributes : Linked known _ :=
    Linked.of_isInert (policy.isInert_records game.foreignAttributes)
  exact ((hattributes.append hchildren).append
    (Linked.of_isInert (isInert_fileReferences file game))).append ⟨trivial, trivial, trivial⟩

theorem complete_child (before : List Element) (c : Element) :
    Complete (child policy file guid game before c) := by
  have hforeign (nodes : List ForeignNode) : Complete (policy.records nodes) :=
    Complete.of_isInert (policy.isInert_records nodes)
  unfold child
  cases Game.childRole c with
  | foreign => exact hforeign _
  | unexpected => exact Complete.of_isInert (by simp)
  | task kind =>
    dsimp only
    refine Complete.append (Complete.append ?_ (hforeign _)) (complete_task _ _ _ _ _)
    split
    · exact complete_roots _ _ _
    · exact Complete.of_isInert (by simp)

theorem complete_game : Complete (Translation.game policy file guid game) := by
  have hchildren : Complete (game.children.mapIdx fun i c =>
      child policy file guid game (game.children.take i) c).flatten := by
    refine Complete.flatten fun records hrecords => ?_
    obtain ⟨i, hi, rfl⟩ := List.mem_mapIdx.1 hrecords
    exact complete_child policy file guid game _ _
  have hends : Complete [.game
      { source := game.source, instanceId := guid, fileRef := definition file game },
      reference game "CustomAction" "WixSchedGameExplorer"] := by
    simp [Complete, Record.IsServed, reference, Game.scheduleAction]
  exact (((Complete.of_isInert (policy.isInert_records _)).append hchildren).append
    (Complete.of_isInert (isInert_fileReferences file game))).append hends

end Translation

namespace Action

theorem not_shortcut_of_isFree {actions : List Action} (h : ∀ a ∈ actions, a.isFree = true)
    (s : ShortcutRecord) : .emit (.shortcut s) ∉ actions :=
  fun hmem => absurd (h _ hmem) Bool.false_ne_true

end Action

namespace TaskElement

theorem target_of_mem_emission {kind : TaskKind} {task : Element} {file : FileContext}
    {executable : String} {ordinal : UInt32} {s : ShortcutRecord}
    (h : .emit (.shortcut s) ∈ emission kind task file executable ordinal) :
    s.target = "[#" ++ executable ++ "]" := by
  obtain hdirectory | ⟨_, _, hshortcut⟩ | ⟨_, _, _, hlink⟩ := cases_of_mem_emission h
  · obtain ⟨_, _, hrejection⟩ | hrecord := Task.cases_of_mem_directory hdirectory
    · cases hrejection
    · cases hrecord
  · cases hshortcut
    rfl
  · cases hlink

end TaskElement

namespace Game

theorem target_of_mem_childrenPlan {game : Element} {file : FileContext} {roots : TaskRoots}
    {ordinals : Ordinals} {children : List Element} {s : ShortcutRecord}
    (h : .emit (.shortcut s) ∈ (childrenPlan game file roots ordinals children).opened) :
    s.target = "[#" ++ executableFile game file ++ "]" := by
  induction children generalizing roots ordinals with
  | nil => cases h
  | cons c rest ih =>
    rw [childrenPlan] at h
    cases hrole : childRole c with
    | foreign =>
      rw [hrole] at h
      obtain hmem | hmem := List.mem_cons.1 h
      · cases hmem
      · exact ih hmem
    | unexpected =>
      rw [hrole] at h
      obtain hmem | hmem := List.mem_cons.1 h
      · cases hmem
      · exact ih hmem
    | task kind =>
      rw [hrole] at h
      dsimp only at h
      rw [Plan.opened_append, Plan.opened_append, Plan.opened_ofActions, TaskElement.opened_plan,
        List.mem_append, List.mem_append, List.mem_append] at h
      obtain (hmem | hmem | hmem) | hmem := h
      · exact absurd hmem (Action.not_shortcut_of_isFree (roots.isFree_ensure _ _ _) s)
      · exact absurd hmem (Action.not_shortcut_of_isFree (TaskElement.isFree_checks kind c) s)
      · exact TaskElement.target_of_mem_emission hmem
      · exact ih hmem

theorem target_of_mem_plan {game : Element} {file : FileContext} {s : ShortcutRecord}
    (h : .emit (.shortcut s) ∈ (plan game file).opened) :
    s.target = "[#" ++ executableFile game file ++ "]" := by
  rw [opened_plan] at h
  simp only [List.mem_append] at h
  obtain ((hmem | hmem) | hmem | hmem) | hmem := h
  · obtain ⟨attr, -, hmem⟩ := List.mem_flatMap.1 hmem
    exact absurd hmem (Action.not_shortcut_of_isFree (isFree_attributeActions game attr) s)
  · exact target_of_mem_childrenPlan hmem
  · cases isReport_missingId game _ hmem
  · exact absurd hmem (Action.not_shortcut_of_isFree (isFree_fileReferences game file) s)
  · obtain ⟨_, hgame⟩ | hreference := cases_of_mem_registration hmem
    · cases hgame
    · cases hreference

end Game

namespace Job
variable {setup : Setup} {job : Job}

/-- The identifier is that of the job's own file, or a reference asks for the file. -/
def NamesFile (job : Job) (records : List Record) (id : String) : Prop :=
  job.context.get? Context.fileId = some id ∨
    ∃ ref, .reference ref ∈ records ∧ ref.table = "File" ∧ ref.primaryKeys = id

theorem NamesFile.mono {records records' : List Record} {id : String} (h : job.NamesFile records id)
    (hsub : records ⊆ records') : job.NamesFile records' id :=
  h.imp_right fun ⟨ref, hmem, href⟩ => ⟨ref, hsub hmem, href⟩

theorem namesFile_of_game? {file : FileContext} {game : Element}
    (h : job.game? = some (file, game)) (policy : ForeignPolicy) (guid : String) {id : String}
    (hid : id ∈ [Translation.definition file game, Translation.executable file game]) :
    job.NamesFile (Translation.game policy file guid game) id := by
  by_cases hown : id = file.fileId
  · rw [hown]
    exact .inl (context_of_game? h).2.1
  · refine .inr ⟨{ source := game.source, table := "File", primaryKeys := id }, ?_, rfl, rfl⟩
    have hreferenced : id ∈ [Translation.definition file game,
        Translation.executable file game].filter (· != file.fileId) :=
      List.mem_filter.2 ⟨hid, bne_iff_ne.2 hown⟩
    exact List.mem_append_left _ (List.mem_append_right _ (List.mem_map_of_mem hreferenced))

theorem linked_and_complete (hclean : (Plan.perform setup false job.plan).failed = false) :
    Linked [] (Plan.perform setup false job.plan).records ∧
      Complete (Plan.perform setup false job.plan).records := by
  cases hgame : job.game? with
  | none =>
    obtain ⟨values, hvalues⟩ := records_of_game?_eq_none hgame hclean
    have hinert : ∀ r ∈ values.map Record.registry, r.isInert = true := by
      intro r hr
      obtain ⟨value, -, rfl⟩ := List.mem_map.1 hr
      rfl
    rw [hvalues]
    exact ⟨Linked.of_isInert hinert, Complete.of_isInert hinert⟩
  | some pair =>
    obtain ⟨guid, -, hrecords⟩ := guid_of_game? hgame hclean
    rw [hrecords]
    exact ⟨Translation.linked_game .., Translation.complete_game _ _ _ _⟩

theorem fileRef_of_mem_records {g : GameRecord}
    (hclean : (Plan.perform setup false job.plan).failed = false)
    (hmem : .game g ∈ (Plan.perform setup false job.plan).records) :
    job.NamesFile (Plan.perform setup false job.plan).records g.fileRef := by
  cases hgame : job.game? with
  | none =>
    obtain ⟨values, hvalues⟩ := records_of_game?_eq_none hgame hclean
    rw [hvalues] at hmem
    obtain ⟨value, -, hvalue⟩ := List.mem_map.1 hmem
    cases hvalue
  | some pair =>
    obtain ⟨file, game⟩ := pair
    obtain ⟨guid, -, hrecords⟩ := guid_of_game? hgame hclean
    rw [hrecords] at hmem ⊢
    have hview : g ∈ (Translation.game setup.foreign file guid.text game).filterMap Record.game? :=
      List.mem_filterMap.2 ⟨_, hmem, rfl⟩
    rw [Translation.games_game, List.mem_singleton] at hview
    rw [hview]
    exact namesFile_of_game? hgame _ _ List.mem_cons_self

theorem target_of_mem_entries {s : ShortcutRecord}
    (hclean : (Plan.perform setup false job.plan).failed = false)
    (hmem : .record .own (.shortcut s) ∈ (Plan.perform setup false job.plan).entries) :
    ∃ id, s.target = "[#" ++ id ++ "]" ∧
      job.NamesFile (Plan.perform setup false job.plan).records id := by
  cases hgame : job.game? with
  | none =>
    obtain ⟨values, hvalues⟩ := records_of_game?_eq_none hgame hclean
    have hrecord : .shortcut s ∈ (Plan.perform setup false job.plan).records :=
      List.mem_filterMap.2 ⟨_, hmem, rfl⟩
    rw [hvalues] at hrecord
    obtain ⟨value, -, hvalue⟩ := List.mem_map.1 hrecord
    cases hvalue
  | some pair =>
    obtain ⟨file, game⟩ := pair
    obtain ⟨guid, -, hrecords⟩ := guid_of_game? hgame hclean
    rw [Plan.perform_of_clean setup hclean, mem_own_performAll_iff, plan_of_game? hgame] at hmem
    refine ⟨Translation.executable file game, ?_, ?_⟩
    · rw [← Game.executableFile_eq]
      exact Game.target_of_mem_plan hmem
    · rw [hrecords]
      exact namesFile_of_game? hgame _ _ (by simp)

end Job

namespace Sample

def savedGame : Job :=
  .onAttribute { entries := [("ProgId", "Game.Save"), ("ComponentId", "GameComp")] }
    { name := { localName := "Extension" }
      attributes := [{ name := { localName := "Id" }, value := "sav" }] }
    { name := { localName := "IsRichSavedGame" }, value := "yes" }

def request : Request where
  sectionId := "product"
  jobs := [flawlessJob, savedGame, job mixedGame]

end Sample

namespace Request
variable {setup : Setup} {r : Request}

theorem linked_of_isCommitted (h : r.IsCommitted setup) : Linked [] (r.run setup).records := by
  rw [records_of_isCommitted h]
  exact Linked.flatMap fun job hjob => (Job.linked_and_complete (clean_of_isCommitted h hjob)).1

theorem complete_of_isCommitted (h : r.IsCommitted setup) : Complete (r.run setup).records := by
  rw [records_of_isCommitted h, List.flatMap_def]
  refine Complete.flatten fun records hrecords => ?_
  obtain ⟨job, hjob, rfl⟩ := List.mem_map.1 hrecords
  exact (Job.linked_and_complete (clean_of_isCommitted h hjob)).2

/-- The section is put together from what the jobs bring, so each record has the job that made it. Of
the shortcuts, those of the compilation's own are the play tasks'. -/
theorem references_resolve (r : Request) (setup : Setup) (commit : Commit)
    (h : r.outcome setup = .ok commit) :
    (∀ before record after, commit.content.records = before ++ record :: after →
      record.RefersTo before) ∧
    (∀ record ∈ commit.content.records, record.IsServed commit.content.records) ∧
    commit.content.records = r.jobs.flatMap (fun job => ((r.alone job).run setup).records) ∧
    ∀ job ∈ r.jobs,
      (∀ g, .game g ∈ ((r.alone job).run setup).records →
        job.NamesFile commit.content.records g.fileRef) ∧
      ∀ s, .record .own (.shortcut s) ∈ ((r.alone job).run setup).entries →
        ∃ id, s.target = "[#" ++ id ++ "]" ∧ job.NamesFile commit.content.records id := by
  have hcommitted : r.IsCommitted setup := ⟨commit, h⟩
  have hcontent : commit.content.records = (r.run setup).records := by
    rw [(Compilation.finish_eq_ok_iff.1 h).2]
  have hclean {job : Job} (hjob : job ∈ r.jobs) := clean_of_isCommitted hcommitted hjob
  have hrecords : commit.content.records =
      r.jobs.flatMap fun job => (Plan.perform setup false job.plan).records := by
    rw [hcontent, records_of_isCommitted hcommitted]
  have hsub {job : Job} (hjob : job ∈ r.jobs) :
      (Plan.perform setup false job.plan).records ⊆ commit.content.records := by
    intro record hrecord
    rw [hrecords]
    exact List.mem_flatMap.2 ⟨job, hjob, hrecord⟩
  refine ⟨?_, ?_, by simpa only [records_alone] using hrecords, ?_⟩
  · intro before record after hsplit
    have hlinked : Linked [] (before ++ record :: after) := by
      rw [← hsplit, hcontent]
      exact linked_of_isCommitted hcommitted
    exact hlinked.refersTo
  · rw [hcontent]
    exact complete_of_isCommitted hcommitted
  · intro job hjob
    constructor
    · intro g hg
      rw [records_alone] at hg
      exact (Job.fileRef_of_mem_records (hclean hjob) hg).mono (hsub hjob)
    · intro s hs
      rw [run_alone_eq, Journal.entries_append] at hs
      obtain hs | hs := List.mem_append.1 hs
      · simp [Journal.note] at hs
      · obtain ⟨id, htarget, hfile⟩ := Job.target_of_mem_entries (hclean hjob) hs
        exact ⟨id, htarget, hfile.mono (hsub hjob)⟩

theorem references_of_request : ∃ commit, Sample.request.outcome Sample.accepting = .ok commit ∧
    (∀ before record after, commit.content.records = before ++ record :: after →
      record.RefersTo before) ∧
    ∀ record ∈ commit.content.records, record.IsServed commit.content.records := by
  obtain ⟨commit, h⟩ : Sample.request.IsCommitted Sample.accepting :=
    isCommitted_iff_clean.2 (by decide)
  obtain ⟨hrefers, hserved, -⟩ := references_resolve Sample.request Sample.accepting commit h
  exact ⟨commit, h, hrefers, hserved⟩

end Request

end GameRegistration
