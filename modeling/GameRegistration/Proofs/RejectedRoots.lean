import GameRegistration.Proofs.RootRecords
import GameRegistration.Proofs.Validation

/-! Rejected identifiers of task directories. The roots alone decide: they are reported once, and a
task whose directory is made lies in roots that leave room for its ordinal. -/
namespace GameRegistration

def Journal.rejections (j : Journal) : List Diagnostic :=
  j.diagnostics.filter (·.problem.number? = some 6301)

namespace Task

/-- What is reported of an identifier: that it is too long, or else that it is bad. -/
def rejection (source : SourcePosition) (id : String) : List Diagnostic :=
  if 72 < id.length then [⟨source, .error, .illegalTaskDirectory id (.tooLong id.length)⟩]
  else if Identifier.isLegal id then []
  else [⟨source, .error, .illegalTaskDirectory id .badGrammar⟩]

def rejectedRoots (source : SourcePosition) (component : String) : List Diagnostic :=
  rejection source ("WixPlayTasksRoot_" ++ component) ++
    rejection source ("WixSupportTasksRoot_" ++ component)

theorem rejectedRoots_eq (source : SourcePosition) (component : String) :
    rejectedRoots source component =
      rejection source (Identifier.compose TaskKind.play.rootStem component) ++
        rejection source (Identifier.compose TaskKind.support.rootStem component) := by
  rw [rejectedRoots, ← TaskKind.rootStem_append.1, ← TaskKind.rootStem_append.2]
  rfl

section Component
variable (source : SourcePosition) {component : String}

theorem rejection_root (kind : TaskKind) (component : String) :
    rejection source (Identifier.compose kind.rootStem component) =
      if 72 < kind.rootStem.length + 1 + component.length then
        [⟨source, .error, .illegalTaskDirectory (Identifier.compose kind.rootStem component)
          (.tooLong (kind.rootStem.length + 1 + component.length))⟩]
      else if component.toList.all Identifier.isPart then []
      else [⟨source, .error,
        .illegalTaskDirectory (Identifier.compose kind.rootStem component) .badGrammar⟩] := by
  rw [rejection, Identifier.length_compose, Identifier.isLegal_compose component (isLegal_rootStem kind)]

theorem rejection_root_eq_nil {kind : TaskKind}
    (hparts : component.toList.all Identifier.isPart = true)
    (hlength : kind.rootStem.length + 1 + component.length ≤ 72) :
    rejection source (Identifier.compose kind.rootStem component) = [] := by
  rw [rejection_root, if_neg (by omega), if_pos hparts]

/-- Both roots are accepted up to 52 characters. -/
theorem rejectedRoots_of_short (hparts : component.toList.all Identifier.isPart = true)
    (hlength : component.length ≤ 52) : rejectedRoots source component = [] := by
  obtain ⟨hplay, hsupport⟩ := TaskKind.length_rootStem
  rw [rejectedRoots_eq, rejection_root_eq_nil source hparts (by omega),
    rejection_root_eq_nil source hparts (by omega), List.append_nil]

theorem rejectedRoots_of_long (hparts : component.toList.all Identifier.isPart = true)
    (hlong : 52 < component.length) (hlength : component.length ≤ 55) :
    rejectedRoots source component =
      [⟨source, .error, .illegalTaskDirectory ("WixSupportTasksRoot_" ++ component)
        (.tooLong (20 + component.length))⟩] := by
  obtain ⟨hplay, hsupport⟩ := TaskKind.length_rootStem
  rw [rejectedRoots_eq, rejection_root_eq_nil source hparts (by omega), rejection_root,
    if_pos (by omega), hsupport, Identifier.compose, TaskKind.rootStem_append.2, List.nil_append]

theorem length_rejection_root_of_bad {kind : TaskKind}
    (hbad : component.toList.all Identifier.isPart = true →
      72 < kind.rootStem.length + 1 + component.length) :
    (rejection source (Identifier.compose kind.rootStem component)).length = 1 := by
  rw [rejection_root]
  by_cases hlength : 72 < kind.rootStem.length + 1 + component.length
  · rw [if_pos hlength]
    rfl
  · rw [if_neg hlength, if_neg fun hparts => hlength (hbad hparts)]
    rfl

theorem length_rejectedRoots_of_bad
    (hbad : ¬ (component.toList.all Identifier.isPart = true ∧ component.length ≤ 55)) :
    (rejectedRoots source component).length = 2 := by
  obtain ⟨hplay, hsupport⟩ := TaskKind.length_rootStem
  have hlong (kind : TaskKind) (hparts : component.toList.all Identifier.isPart = true) :
      72 < kind.rootStem.length + 1 + component.length := by
    have hlength : ¬ component.length ≤ 55 := fun h => hbad ⟨hparts, h⟩
    cases kind <;> omega
  rw [rejectedRoots_eq, List.length_append, length_rejection_root_of_bad source (hlong .play),
    length_rejection_root_of_bad source (hlong .support)]

/-- The first ordinal that does not fit takes one character too many. -/
theorem violation?_of_maxTasks (hlength : component.length = 52) (kind : TaskKind) :
    Identifier.violation? (Identifier.compose (stem kind (.ofNat kind.maxTasks)) component) =
      some (.tooLong 73) := by
  have hstem : (stem kind (.ofNat kind.maxTasks)).length = 20 := by
    rw [length_stem]
    cases kind <;> decide
  rw [Identifier.violation?, Identifier.length_compose, hstem, hlength]
  rfl

end Component

end Task

/-- A report with a number is one of a rejected identifier. -/
def Action.isNumbered : Action → Bool
  | .error _ problem | .warning _ problem => problem.number?.isSome
  | _ => false

variable {setup : Setup} {failed : Bool}

@[simp] theorem Journal.rejections_append (a b : Journal) :
    (a ++ b).rejections = a.rejections ++ b.rejections := by
  simp [rejections]

theorem Journal.rejections_write {source : SourcePosition} {level : Level} {problem : Problem}
    (h : problem.number? = none) : (write source level problem).rejections = [] := by
  simp [write, rejections, diagnostics, Entry.diagnostic?, h]

theorem Journal.rejections_warning {policy : WarningPolicy} {source : SourcePosition}
    {problem : Problem} (h : problem.number? = none) :
    (warning policy source problem).rejections = [] := by
  change (({ entries := [.warned source problem] } : Journal) ++
    settle policy source problem).rejections = []
  rw [rejections_append]
  unfold settle
  cases policy.treatment with
  | keep => exact rejections_write h
  | elevate => exact rejections_write h
  | suppress => rfl

theorem Action.rejections_of_not_isNumbered {a : Action} (h : a.isNumbered = false) :
    (a.perform setup).rejections = [] := by
  cases a with
  | error source problem =>
    exact Journal.rejections_write (by simpa [isNumbered] using h)
  | warning source problem =>
    exact Journal.rejections_warning (by simpa [isNumbered] using h)
  | emit record => rfl
  | note event => rfl
  | hand node =>
    change (setup.foreign.handle setup.warnings node).rejections = []
    unfold ForeignPolicy.handle
    rw [Journal.rejections_append]
    cases setup.foreign with
    | reject => exact Journal.rejections_write (by cases node <;> rfl)
    | accept => rfl
    | warn => exact Journal.rejections_warning (by cases node <;> rfl)
  | requestLink link =>
    change (setup.link link).rejections = []
    obtain ⟨-, h⟩ | ⟨_, -, -, h⟩ | ⟨_, -, -, h⟩ := setup.link_cases link <;> rw [h] <;> rfl

theorem rejections_performAll (actions : List Action) :
    (performAll setup actions).rejections =
      actions.flatMap fun a => (a.perform setup).rejections := by
  rw [Journal.rejections, diagnostics_performAll, List.filter_flatMap]
  rfl

theorem rejections_of_not_isNumbered {actions : List Action}
    (h : ∀ a ∈ actions, a.isNumbered = false) : (performAll setup actions).rejections = [] := by
  rw [rejections_performAll, List.flatMap_eq_nil_iff]
  exact fun a ha => Action.rejections_of_not_isNumbered (h a ha)

theorem Journal.rejections_eq_filter_validation (j : Journal) :
    j.rejections = j.validation.filter (·.problem.number? = some 6301) := by
  rw [rejections, validation, List.filter_filter]
  refine List.filter_congr fun d _ => ?_
  cases d.problem <;> rfl

/-- Behind the gates of an orderly plan no identifier is rejected. -/
theorem Plan.Orderly.rejections {p : Plan} (h : Plan.Orderly setup failed p) :
    (Plan.perform setup failed p).rejections = (performAll setup p.ungated).rejections := by
  rw [Journal.rejections_eq_filter_validation, h.validation, List.filter_flatMap, rejections_performAll]
  simp only [Journal.rejections_eq_filter_validation]

namespace Task
variable (source : SourcePosition)

theorem rejections_directoryId (stem component : String) :
    (performAll setup (directoryId source stem component).actions).rejections =
      rejection source (Identifier.compose stem component) := by
  unfold directoryId rejection Identifier.violation? Identifier.maxLength
  dsimp only
  split_ifs <;> rfl

theorem rejections_roots (guid component : String) :
    (performAll setup (roots source guid component)).rejections = rejectedRoots source component := by
  have hrecords (records : List Record) : (performAll setup (records.map .emit)).rejections = [] := by
    refine rejections_of_not_isNumbered fun a ha => ?_
    obtain ⟨r, -, rfl⟩ := List.mem_map.1 ha
    rfl
  rw [roots, performAll_append, performAll_append, Journal.rejections_append,
    Journal.rejections_append, hrecords, List.append_nil, rejectedRoots_eq]
  exact congrArg₂ _ (rejections_directoryId source _ component)
    (rejections_directoryId source _ component)

end Task

theorem TaskRoots.rejections_ensure (r : TaskRoots) (source : SourcePosition)
    (guid component : String) :
    (performAll setup (r.ensure source guid component).actions).rejections =
      if r = .noTasksSeen then Task.rejectedRoots source component else [] := by
  cases r with
  | rootsEmitted => rfl
  | noTasksSeen =>
    rw [ensure, Task.rejections_roots]
    rfl

namespace TaskElement

theorem not_isNumbered_checks (kind : TaskKind) (task : Element) :
    ∀ a ∈ checks kind task, a.isNumbered = false := by
  intro a ha
  obtain ⟨node, rfl⟩ | ⟨source, problem, rfl, hnumber⟩ := cases_of_mem_checks ha
  · rfl
  · rw [Action.isNumbered, hnumber]
    rfl

theorem ungated_plan (kind : TaskKind) (task : Element) (file : FileContext) (executable : String)
    (ordinal : UInt32) : (plan kind task file executable ordinal).ungated = checks kind task := by
  rw [plan, Plan.ungated_append, Plan.ungated_ofActions, Plan.ungated_gate, Plan.ungated_nil,
    List.append_nil]

end TaskElement

namespace Game
variable (game : Element) (file : FileContext)

theorem not_isNumbered_attributes :
    ∀ a ∈ game.attributes.flatMap (attributeActions game), a.isNumbered = false := by
  intro a ha
  obtain ⟨node, rfl⟩ | ⟨problem, rfl, hnumber⟩ | ⟨attr, rfl⟩ := cases_of_mem_attributes ha
  · rfl
  · rw [Action.isNumbered, hnumber]
    rfl
  · rfl

theorem not_isNumbered_ends :
    ∀ a ∈ missingId game ++ fileReferences game file, a.isNumbered = false := by
  intro a ha
  obtain ha | ha := List.mem_append.1 ha
  · rw [eq_of_mem_missingId ha]
    rfl
  · obtain ⟨key, rfl⟩ := exists_of_mem_fileReferences ha
    rfl

/-- The first task has the roots reported, and no later one. -/
theorem rejections_childrenPlan (roots : TaskRoots) (ordinals : Ordinals) (children : List Element) :
    (performAll setup (childrenPlan game file roots ordinals children).ungated).rejections =
      if roots = .noTasksSeen ∧ ¬ Taskless children then
        Task.rejectedRoots game.source file.componentId
      else [] := by
  induction children generalizing roots ordinals with
  | nil => simp [childrenPlan, performAll, Journal.rejections, Journal.diagnostics, taskCount]
  | cons c rest ih =>
    have hrest : Taskless (c :: rest) ↔ Taskless [c] ∧ Taskless rest :=
      taskless_append_iff (a := [c])
    rw [childrenPlan]
    cases hrole : childRole c with
    | task kind =>
      have hc : ¬ Taskless (c :: rest) := fun h =>
        taskless_singleton_iff.1 (hrest.1 h).1 kind hrole
      have hchecks : (performAll setup (TaskElement.checks kind c)).rejections = [] :=
        rejections_of_not_isNumbered (TaskElement.not_isNumbered_checks kind c)
      dsimp only
      -- for the children behind this one the roots are made
      rw [Plan.ungated_append, Plan.ungated_append, Plan.ungated_ofActions, TaskElement.ungated_plan,
        performAll_append, performAll_append, Journal.rejections_append, Journal.rejections_append,
        roots.rejections_ensure, hchecks, ih, roots.value_ensure]
      simp [hc]
    | foreign | unexpected =>
      have hc : Taskless (c :: rest) ↔ Taskless rest :=
        hrest.trans (and_iff_right (taskless_singleton_iff.2 (by simp [hrole])))
      dsimp only
      rw [Plan.ungated_act, performAll, Journal.rejections_append,
        Action.rejections_of_not_isNumbered rfl, ih, List.nil_append]
      simp only [hc]

theorem rejections_plan (hlimits : ∀ kind : TaskKind, taskCount kind game.children ≤ kind.maxTasks) :
    (Plan.perform setup failed (plan game file)).rejections =
      if Taskless game.children then [] else Task.rejectedRoots game.source file.componentId := by
  have hends : (performAll setup (missingId game ++ fileReferences game file)).rejections = [] :=
    rejections_of_not_isNumbered (not_isNumbered_ends game file)
  rw [(orderly_plan game file hlimits).rejections, plan, Plan.ungated_append, Plan.ungated_append,
    Plan.ungated_append, Plan.ungated_ofActions, Plan.ungated_ofActions, Plan.ungated_gate,
    Plan.ungated_nil, List.append_nil, performAll_append, performAll_append,
    Journal.rejections_append, Journal.rejections_append, hends, rejections_childrenPlan,
    rejections_of_not_isNumbered (not_isNumbered_attributes game), List.nil_append, List.append_nil]
  by_cases htaskless : Taskless game.children <;> simp [htaskless]

theorem settled_opening (before : List Element) :
    (passed before).1.Settled (Plan.failedAfter setup failed (opening game file before))
      file.componentId := by
  -- From the last child: only a task that makes the roots has to settle them, all else keeps an error.
  induction before using List.reverseRecOn with
  | nil => exact nofun
  | append_singleton before c ih =>
    rw [opening_append, Plan.failedAfter_append, passed, List.foldl_append, List.foldl_cons,
      List.foldl_nil, pass]
    cases hrole : childRole c with
    | task kind =>
      have hensured := ih.ensure setup game.source ((instanceId game).getD "")
      rw [TaskRoots.value_ensure] at hensured
      rw [childrenPlan, hrole]
      dsimp only
      rw [Plan.failedAfter_append, Plan.failedAfter_append]
      simp only [Plan.failedAfter, Plan.perform_ofActions]
      exact (hensured.mono _).mono _
    | _ => exact ih.mono _

theorem rootsAccepted_of_not_isRefused {t : PlacedTask}
    (h : isRefused setup game file failed t = false) : Task.RootsAccepted file.componentId := by
  have hsettled : (passed t.before).1.Settled (Plan.failedAfter setup failed (opening game file t.before))
      file.componentId := settled_opening game file t.before
  have hensured := hsettled.ensure setup game.source ((instanceId game).getD "")
  rw [isRefused, approach, Plan.failedAfter_append, Plan.failedAfter, Plan.perform_ofActions,
    performAll_append, Journal.failed_append, ← Bool.or_assoc, Bool.or_eq_false_iff] at h
  obtain hfailed | haccepted := hensured (TaskRoots.value_ensure _ _ _ _)
  · rw [h.1] at hfailed
    cases hfailed
  · exact haccepted

theorem directory_of_not_isRefused {t : PlacedTask} (hlimit : t.count < t.kind.maxTasks)
    (h : isRefused setup game file failed t = false) :
    (Task.directory t.element.source file.componentId t.kind (.ofNat t.count)).actions =
      [.emit (.directory (t.directory file))] := by
  have hsize : t.kind.maxTasks < UInt32.size := by cases t.kind <;> decide
  have hordinal : (UInt32.ofNat t.count).toNat = t.count :=
    UInt32.toNat_ofNat_of_lt' (Nat.lt_trans hlimit hsize)
  have hname : toString (UInt32.ofNat t.count) = toString t.count := congrArg Nat.repr hordinal
  rw [(rootsAccepted_of_not_isRefused game file h).directory_actions _ t.kind (by rwa [hordinal]),
    Task.stem, hname]
  rfl

end Game

/-- What is reported of the identifiers of task directories, after any earlier errors and under any
setup: of a game with a task, what is to be said of its two roots, whatever tasks there are. The roots
come under their full names all the same, and no task that is not refused has anything reported of its
directory. One ordinal more would not do. -/
theorem Job.rejections_onElement (setup : Setup) (failed : Bool) (context : Context)
    (parent game : Element) (file : FileContext) (hparent : parent.localName = "File")
    (hgame : game.localName = "Game") (hfile : context.get? Context.fileId = some file.fileId)
    (hcomponent : context.get? Context.componentId = some file.componentId)
    (hdirectory : context.get? Context.directoryId = some file.directoryId)
    (htasks : ¬ Game.Taskless game.children)
    (hplay : Game.taskCount .play game.children ≤ 100000000)
    (hsupport : Game.taskCount .support game.children ≤ 100000) :
    ((onElement context parent game).perform setup failed).rejections =
        Task.rejectedRoots game.source file.componentId ∧
      (file.componentId.toList.all Identifier.isPart = true → file.componentId.length ≤ 52 →
        Task.rejectedRoots game.source file.componentId = []) ∧
      (file.componentId.toList.all Identifier.isPart = true → 52 < file.componentId.length →
        file.componentId.length ≤ 55 →
        Task.rejectedRoots game.source file.componentId =
          [⟨game.source, .error, .illegalTaskDirectory ("WixSupportTasksRoot_" ++ file.componentId)
            (.tooLong (20 + file.componentId.length))⟩]) ∧
      (¬ (file.componentId.toList.all Identifier.isPart = true ∧ file.componentId.length ≤ 55) →
        (Task.rejectedRoots game.source file.componentId).length = 2) ∧
      Translation.roots game.source (Translation.idInEffect game) file.componentId ⊆
        ((onElement context parent game).perform setup failed).records ∧
      (∀ t ∈ Game.placed game.children, Game.isRefused setup game file failed t = false →
        ∃ ordinal rest, (onElement context parent game).plan = Game.approach game file t ++
          .gate [] (TaskElement.emission t.kind t.element file (Game.executableFile game file) ordinal) ::
            rest ∧
          (Task.directory t.element.source file.componentId t.kind ordinal).actions =
            [.emit (.directory (t.directory file))]) ∧
      (file.componentId.toList.all Identifier.isPart = true → file.componentId.length = 52 →
        Task.RootsAccepted file.componentId ∧ ∀ kind : TaskKind,
          Identifier.violation? (Identifier.compose (Task.stem kind (.ofNat kind.maxTasks))
            file.componentId) = some (.tooLong 73)) := by
  have hplan : (onElement context parent game).plan = Game.plan game file :=
    elementPlan_of_context hparent hgame hfile hcomponent hdirectory
  have hlimits : ∀ kind : TaskKind, Game.taskCount kind game.children ≤ kind.maxTasks := by
    intro kind
    cases kind with
    | play => exact hplay
    | support => exact hsupport
  have hrejections : (Plan.perform setup failed (Game.plan game file)).rejections = _ :=
    Game.rejections_plan game file hlimits
  have hroots : (Plan.perform setup failed (Game.plan game file)).rootRecords = _ :=
    Game.rootRecords_plan game file
  rw [if_neg htasks] at hrejections hroots
  rw [perform, hplan]
  refine ⟨hrejections, Task.rejectedRoots_of_short _, Task.rejectedRoots_of_long _,
    Task.length_rejectedRoots_of_bad _, ?_, fun t ht hopen => ?_, fun hparts hlength => ?_⟩
  · rw [← hroots]
    exact fun _ hr => (List.mem_filter.1 hr).1
  · obtain ⟨rest, hrest⟩ := Game.exists_plan_eq game file ht
    have hlimit : t.count < t.kind.maxTasks :=
      Nat.lt_of_lt_of_le (Game.count_lt_of_mem_placed ht) (hlimits t.kind)
    refine ⟨_, rest, hrest, ?_⟩
    rw [(Game.progress_passed t.before).ordinal_eq t.kind]
    exact Game.directory_of_not_isRefused game file hlimit hopen
  · exact ⟨Task.rootsAccepted_iff.2 ⟨Nat.le_of_eq hlength, hparts⟩, Task.violation?_of_maxTasks hlength⟩

namespace Sample

/-- As long as it can be for the root of play tasks to be accepted alone, but for two characters. -/
def wideComponent : String := "Game.Launcher.Component.With.A.Name.Of.53.Characters_"

def wideContext : Context where
  entries := [("FileId", "GameExe"), ("ComponentId", wideComponent), ("DirectoryId", "INSTALLFOLDER")]

def wideFileContext : FileContext := { fileContext with componentId := wideComponent }

end Sample

/-- One report for four children, three of them tasks. -/
theorem Job.rejections_wideContext :
    ((onElement Sample.wideContext Sample.file Sample.mixedGame).perform {} true).rejections =
      [⟨{}, .error, .illegalTaskDirectory ("WixSupportTasksRoot_" ++ Sample.wideComponent)
        (.tooLong 73)⟩] := by
  obtain ⟨hrejections, -, hlong, -⟩ := rejections_onElement {} true Sample.wideContext Sample.file
    Sample.mixedGame Sample.wideFileContext rfl rfl rfl rfl rfl (by decide) (by decide) (by decide)
  rw [hrejections, hlong (by decide) (by decide) (by decide)]
  rfl

end GameRegistration
