import GameRegistration.Proofs.TaskPrefix
import GameRegistration.Proofs.TranslationViews

/-! Roots of a game, in any run. No gate stands before them: they are made once, right before the
first task, and for the id that the attributes have come to by then. -/
namespace GameRegistration

/-- The id that is in effect when the attributes are read; no text without one. -/
def Translation.idInEffect (game : Element) : String :=
  ((game.ownValue? "Id").map Guid.normalized).getD ""

namespace Record

def isRootDirectory (r : Record) : Bool := r.directory?.any (·.parentRef == Task.targetDirectory)

/-- Custom actions and schedules are made for roots only. -/
def isOfRoots (r : Record) : Bool :=
  r.isRootDirectory || r.customAction?.isSome || r.schedule?.isSome

theorem not_isOfRoots_of_isGated {r : Record} (h : r.isGated = true) : r.isOfRoots = false := by
  cases r with
  | directory d =>
    have hparent : d.parentRef ≠ Task.targetDirectory := by simpa [isGated] using h
    simp [isOfRoots, isRootDirectory, directory?, customAction?, schedule?, hparent]
  | customAction _ => cases h
  | schedule _ => cases h
  | _ => rfl

end Record

namespace Journal

def rootRecords (j : Journal) : List Record := j.records.filter Record.isOfRoots

@[simp] theorem rootRecords_append (a b : Journal) :
    (a ++ b).rootRecords = a.rootRecords ++ b.rootRecords := by
  simp [rootRecords]

theorem countP_eq_rootRecords {p : Record → Bool} (h : ∀ r, p r = true → r.isOfRoots = true)
    (j : Journal) : j.records.countP p = j.rootRecords.countP p := by
  rw [rootRecords, List.countP_filter]
  refine List.countP_congr fun r _ => ?_
  rw [Bool.and_eq_true]
  exact ⟨fun hr => ⟨hr, h r hr⟩, And.left⟩

end Journal

variable {setup : Setup} {failed : Bool}

theorem ForeignPolicy.not_isOfRoots_records (policy : ForeignPolicy) (nodes : List ForeignNode) :
    ∀ r ∈ policy.records nodes, r.isOfRoots = false := by
  intro r hr
  cases policy with
  | accept =>
    obtain ⟨node, -, rfl⟩ := List.mem_map.1 hr
    rfl
  | reject => cases hr
  | warn => cases hr

theorem Action.rootRecords_eq_nil {a : Action} (h : ∀ r, a = .emit r → r.isOfRoots = false) :
    (a.perform setup).rootRecords = [] := by
  rw [Journal.rootRecords, List.filter_eq_nil_iff]
  intro r hr
  have hother : r.isOfRoots = false := by
    obtain hemit | ⟨node, -, rfl⟩ | ⟨link, -, rfl⟩ := cases_of_mem_records hr
    · exact h r hemit
    · rfl
    · rfl
  rw [hother]
  exact Bool.false_ne_true

theorem Action.rootRecords_of_isCheck {a : Action} (h : a.isCheck = true) :
    (a.perform setup).rootRecords = [] :=
  rootRecords_eq_nil fun _ hr => by rw [hr] at h; cases h

theorem Plan.rootRecords_eq_nil {p : Plan} (h : ∀ r, .emit r ∈ p.actions → r.isOfRoots = false) :
    (p.perform setup failed).rootRecords = [] := by
  refine p.perform_of_actions (P := fun j => j.rootRecords = []) rfl (fun ha hb => ?_) (fun a ha => ?_)
    failed
  · rw [Journal.rootRecords_append, ha, hb, List.append_nil]
  · exact Action.rootRecords_eq_nil fun r hr => h r (hr ▸ ha)

theorem emit_notMem_of_isCheck {actions : List Action} (h : ∀ a ∈ actions, a.isCheck = true)
    (r : Record) : .emit r ∉ actions :=
  fun hr => Bool.false_ne_true (h _ hr)

namespace TaskElement

theorem isGated_of_mem_emission {kind : TaskKind} {task : Element} {file : FileContext}
    {executable : String} {ordinal : UInt32} {r : Record}
    (h : .emit r ∈ emission kind task file executable ordinal) : r.isGated = true := by
  obtain hdirectory | ⟨_, _, hshortcut⟩ | ⟨_, _, _, hlink⟩ := cases_of_mem_emission h
  · exact Task.isGated_of_mem_directory hdirectory
  · cases hshortcut
    rfl
  · cases hlink

theorem rootRecords_plan (kind : TaskKind) (task : Element) (file : FileContext) (executable : String)
    (ordinal : UInt32) :
    (Plan.perform setup failed (plan kind task file executable ordinal)).rootRecords = [] := by
  refine Plan.rootRecords_eq_nil fun r hr => ?_
  rw [plan, Plan.actions_append, Plan.actions_ofActions] at hr
  obtain hcheck | hemission := List.mem_append.1 hr
  · exact absurd hcheck (emit_notMem_of_isCheck (isCheck_checks kind task) r)
  · simp only [Plan.actions, List.flatMap_singleton, Step.actions, List.nil_append] at hemission
    exact Record.not_isOfRoots_of_isGated (isGated_of_mem_emission hemission)

end TaskElement

theorem Task.records_roots (source : SourcePosition) (guid component : String) :
    (performAll setup (roots source guid component)).records =
      Translation.roots source guid component := by
  have hids : ∀ a ∈ (rootId source .play component).actions ++
      (rootId source .support component).actions, a.isReport = true := by
    intro a ha
    exact (List.mem_append.1 ha).elim (isReport_directoryId source _ component a)
      (isReport_directoryId source _ component a)
  rw [roots, performAll_append, Journal.records_append, records_performAll_of_isReport hids,
    records_emit, List.nil_append, Game.roots_eq]
  rfl

theorem TaskRoots.rootRecords_ensure (r : TaskRoots) (source : SourcePosition)
    (guid component : String) :
    (performAll setup (r.ensure source guid component).actions).rootRecords =
      if r = .noTasksSeen then Translation.roots source guid component else [] := by
  cases r with
  | rootsEmitted => rfl
  | noTasksSeen =>
    rw [ensure, Journal.rootRecords, Task.records_roots]
    rfl

namespace Game
variable (game : Element) (file : FileContext)

theorem instanceId_getD : (instanceId game).getD "" = Translation.idInEffect game := by
  rw [instanceId_eq, Translation.idInEffect]

theorem rootRecords_attributes :
    (performAll setup (game.attributes.flatMap (attributeActions game))).rootRecords = [] := by
  rw [Journal.rootRecords, records_attributes, List.filter_eq_nil_iff]
  intro r hr
  rw [setup.foreign.not_isOfRoots_records _ r hr]
  exact Bool.false_ne_true

/-- The first task behind the others brings the roots; with the roots made, none does. -/
theorem rootRecords_childrenPlan (roots : TaskRoots) (ordinals : Ordinals) (children : List Element) :
    (Plan.perform setup failed (childrenPlan game file roots ordinals children)).rootRecords =
      if roots = .noTasksSeen ∧ ¬ Taskless children then
        Translation.roots game.source (Translation.idInEffect game) file.componentId
      else [] := by
  induction children generalizing failed roots ordinals with
  | nil => simp [childrenPlan, Plan.perform, Journal.rootRecords, Journal.records, taskCount]
  | cons c rest ih =>
    have hrest : Taskless (c :: rest) ↔ Taskless [c] ∧ Taskless rest :=
      taskless_append_iff (a := [c])
    cases hrole : childRole c with
    | task kind =>
      have hc : ¬ Taskless (c :: rest) := fun h =>
        taskless_singleton_iff.1 (hrest.1 h).1 kind hrole
      rw [childrenPlan, hrole]
      dsimp only
      rw [Plan.perform_append, Plan.perform_append, Journal.rootRecords_append,
        Journal.rootRecords_append, Plan.perform_ofActions, roots.rootRecords_ensure,
        TaskElement.rootRecords_plan, ih, roots.value_ensure, instanceId_getD]
      simp [hc]
    | foreign | unexpected =>
      have hc : Taskless (c :: rest) ↔ Taskless rest :=
        hrest.trans (and_iff_right (taskless_singleton_iff.2 (by simp [hrole])))
      rw [childrenPlan, hrole]
      dsimp only
      rw [Plan.perform, Step.perform, Journal.rootRecords_append,
        Action.rootRecords_of_isCheck rfl, ih, List.nil_append]
      simp only [hc]

theorem not_isOfRoots_of_mem_ends {r : Record}
    (h : .emit r ∈ missingId game ++ fileReferences game file ++ registration game file) :
    r.isOfRoots = false := by
  obtain hends | hregistration := List.mem_append.1 h
  · obtain hmissing | hreference := List.mem_append.1 hends
    · cases eq_of_mem_missingId hmissing
    · obtain ⟨key, hkey⟩ := exists_of_mem_fileReferences hreference
      cases hkey
      rfl
  · obtain ⟨id, hgame⟩ | hcustomAction := cases_of_mem_registration hregistration
    · cases hgame
      rfl
    · cases hcustomAction
      rfl

theorem rootRecords_plan :
    (Plan.perform setup failed (plan game file)).rootRecords =
      if Taskless game.children then []
      else Translation.roots game.source (Translation.idInEffect game) file.componentId := by
  have hends (failed : Bool) : (Plan.perform setup failed
      (Plan.ofActions (missingId game ++ fileReferences game file) ++
        [.gate [.note (.registrationSuppressed game.source)]
          (registration game file)])).rootRecords = [] := by
    refine Plan.rootRecords_eq_nil fun r hr => not_isOfRoots_of_mem_ends game file ?_
    rw [Plan.actions_append, Plan.actions_ofActions] at hr
    simpa [Plan.actions, Step.actions] using hr
  rw [plan_eq_opening, Plan.perform_append, Journal.rootRecords_append, hends, List.append_nil, opening,
    Plan.perform_append, Journal.rootRecords_append, Plan.perform_ofActions, rootRecords_attributes,
    rootRecords_childrenPlan, List.nil_append]
  by_cases htaskless : Taskless game.children <;> simp [htaskless]

def foreignAmong (children : List Element) : List ForeignNode :=
  (children.filter (childRole · = .foreign)).map (.childOf game)

theorem records_childrenPlan_of_taskless {children : List Element} (h : Taskless children)
    (w : TaskRoots × Ordinals) :
    (Plan.perform setup failed (childrenPlan game file w.1 w.2 children)).records =
      setup.foreign.records (foreignAmong game children) := by
  induction children generalizing failed with
  | nil => exact setup.foreign.records_nil.symm
  | cons c rest ih =>
    obtain ⟨hc, hrest⟩ := (taskless_append_iff (a := [c])).1 h
    unfold foreignAmong at ih ⊢
    rw [childrenPlan]
    cases hrole : childRole c with
    | task kind => exact absurd hrole (taskless_singleton_iff.1 hc kind)
    | foreign =>
      dsimp only
      rw [Plan.perform, Step.perform, Journal.records_append, Action.records_hand, ih hrest,
        List.filter_cons_of_pos (by simp [hrole]), List.map_cons, ← setup.foreign.records_cons]
    | unexpected =>
      dsimp only
      rw [Plan.perform, Step.perform, Journal.records_append, Action.records_of_isReport setup rfl,
        ih hrest, List.filter_cons_of_neg (by simp [hrole]), List.nil_append]

theorem records_opening_of_taskless {before : List Element} (h : Taskless before) :
    (Plan.perform setup failed (opening game file before)).records =
      setup.foreign.records (game.foreignAttributes ++ foreignAmong game before) := by
  rw [opening, Plan.perform_append, Journal.records_append, Plan.perform_ofActions, records_attributes,
    records_childrenPlan_of_taskless game file h (.noTasksSeen, {}), setup.foreign.records_append]

theorem opening_of_first_task {before : List Element} {task : Element} {kind : TaskKind}
    (h : Taskless before) (hrole : childRole task = .task kind) :
    opening game file (before ++ [task]) =
      opening game file before ++
        Plan.ofActions
          (Task.roots game.source (Translation.idInEffect game) file.componentId) ++
        TaskElement.plan kind task file (executableFile game file) 0 := by
  have hprogress := progress_passed before
  have hroots := hprogress.roots_eq
  have hordinal := hprogress.ordinal_eq kind
  rw [if_pos h] at hroots
  have hcount : taskCount kind before = 0 := by
    cases kind with
    | play => exact h.1
    | support => exact h.2
  rw [hcount] at hordinal
  rw [opening_append, childrenPlan, hrole]
  dsimp only
  rw [hroots, hordinal, instanceId_getD, childrenPlan, List.append_nil, ← List.append_assoc]
  rfl

theorem records_opening_of_first_task {before : List Element} {task : Element} {kind : TaskKind}
    (h : Taskless before) (hrole : childRole task = .task kind) :
    (Plan.perform setup failed (opening game file (before ++ [task]))).records =
      setup.foreign.records (game.foreignAttributes ++ foreignAmong game before) ++
      Translation.roots game.source (Translation.idInEffect game) file.componentId ++
      (Plan.perform setup
        (Plan.failedAfter setup failed
          (opening game file before ++ Plan.ofActions
            (Task.roots game.source (Translation.idInEffect game) file.componentId)))
        (TaskElement.plan kind task file (executableFile game file) 0)).records := by
  rw [opening_of_first_task game file h hrole, Plan.perform_append, Plan.perform_append,
    Journal.records_append, Journal.records_append, records_opening_of_taskless game file h,
    Plan.perform_ofActions, Task.records_roots, Plan.failedAfter, Plan.perform_append,
    Plan.perform_ofActions]

theorem records_opening_prefix {before rest : List Element} (h : game.children = before ++ rest) :
    (Plan.perform setup failed (opening game file before)).records <+:
      (Plan.perform setup failed (plan game file)).records := by
  rw [plan_eq_opening, h, opening_append, List.append_assoc, Plan.perform_append,
    Journal.records_append]
  exact List.prefix_append _ _

end Game

/-- The roots of a game in any run, under any setup: if there is a task they are made once, in one piece
right before all that the first task brings and behind all that the children before it bring, and for
the id in effect when the attributes have been read. Without a task there are none. -/
theorem Job.rootRecords_onElement (setup : Setup) (failed : Bool) (context : Context)
    (parent game : Element) (file : FileContext) (hparent : parent.localName = "File")
    (hgame : game.localName = "Game") (hfile : context.get? Context.fileId = some file.fileId)
    (hcomponent : context.get? Context.componentId = some file.componentId)
    (hdirectory : context.get? Context.directoryId = some file.directoryId) :
    ((onElement context parent game).perform setup failed).records.filter Record.isOfRoots =
        (if Game.Taskless game.children then []
        else Translation.roots game.source (Translation.idInEffect game) file.componentId) ∧
      (∀ p ∈ [Record.isRootDirectory, fun r => r.customAction?.isSome, fun r => r.schedule?.isSome],
        ((onElement context parent game).perform setup failed).records.countP p =
          if Game.Taskless game.children then 0 else 2) ∧
      ∀ before task rest kind, game.children = before ++ task :: rest → Game.Taskless before →
        Game.childRole task = .task kind → ∃ later,
          ((onElement context parent game).perform setup failed).records =
            setup.foreign.records (game.foreignAttributes ++ Game.foreignAmong game before) ++
            Translation.roots game.source (Translation.idInEffect game) file.componentId ++
            (Plan.perform setup
              (Plan.failedAfter setup failed
                (Game.opening game file before ++ Plan.ofActions
                  (Task.roots game.source (Translation.idInEffect game) file.componentId)))
              (TaskElement.plan kind task file (Game.executableFile game file) 0)).records ++
            later := by
  have hplan : (onElement context parent game).perform setup failed =
      Plan.perform setup failed (Game.plan game file) :=
    congrArg _ (elementPlan_of_context hparent hgame hfile hcomponent hdirectory)
  have hroots : (Plan.perform setup failed (Game.plan game file)).rootRecords = _ :=
    Game.rootRecords_plan game file
  rw [hplan]
  refine ⟨hroots, fun p hp => ?_, fun before task rest kind hchildren hbefore hrole => ?_⟩
  · have hkind : ∀ r, p r = true → r.isOfRoots = true := by
      intro r hr
      simp only [List.mem_cons, List.not_mem_nil, or_false] at hp
      obtain rfl | rfl | rfl := hp <;> simp [Record.isOfRoots, hr]
    rw [Journal.countP_eq_rootRecords hkind, hroots]
    by_cases htaskless : Game.Taskless game.children
    · rw [if_pos htaskless, if_pos htaskless]
      rfl
    · rw [if_neg htaskless, if_neg htaskless]
      simp only [List.mem_cons, List.not_mem_nil, or_false] at hp
      obtain rfl | rfl | rfl := hp <;> rfl
  · have hprefix : game.children = (before ++ [task]) ++ rest := by
      rw [hchildren, List.append_assoc, List.singleton_append]
    obtain ⟨later, hlater⟩ :
        (Plan.perform setup failed (Game.opening game file (before ++ [task]))).records <+:
          (Plan.perform setup failed (Game.plan game file)).records :=
      Game.records_opening_prefix game file hprefix
    refine ⟨later, ?_⟩
    rw [← hlater, Game.records_opening_of_first_task game file hbefore hrole]

def Sample.lateIdGame : Element :=
  element "Game" [("ExecutableFile", "1"), ("Id", "12345678-1234-5678-90ab-1234567890ab")]
    [foreignChild, supportTask, playTask]

/-- With an error on record before the game, and another one in it. -/
theorem Job.rootRecords_lateIdGame :
    ((Sample.job Sample.lateIdGame).perform { foreign := .accept } true).records.filter
        Record.isOfRoots =
      Translation.roots {} "\x7b12345678-1234-5678-90AB-1234567890AB\x7d" "GameComp" ∧
    ∃ later, ((Sample.job Sample.lateIdGame).perform { foreign := .accept } true).records =
      [.reference (ForeignNode.childOf Sample.lateIdGame Sample.foreignChild).reference] ++
        Translation.roots {} "\x7b12345678-1234-5678-90AB-1234567890AB\x7d" "GameComp" ++ later := by
  have hid : Translation.idInEffect Sample.lateIdGame =
      "\x7b12345678-1234-5678-90AB-1234567890AB\x7d" := by decide
  obtain ⟨hroots, -, hplace⟩ := rootRecords_onElement { foreign := .accept } true Sample.context
    Sample.file Sample.lateIdGame Sample.fileContext rfl rfl rfl rfl rfl
  rw [hid] at hroots hplace
  obtain ⟨later, hlater⟩ := hplace [Sample.foreignChild] Sample.supportTask [Sample.playTask] .support
    rfl (by decide) (by decide)
  rw [List.append_assoc] at hlater
  exact ⟨hroots.trans (if_neg (by decide)), _, hlater⟩

end GameRegistration
