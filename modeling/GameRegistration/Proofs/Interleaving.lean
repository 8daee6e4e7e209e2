import Mathlib.Data.List.Perm.Basic
import GameRegistration.Proofs.JobRecords
import GameRegistration.Proofs.LikeGames
import GameRegistration.Proofs.TranslationViews

/-! Games whose children come in another order. The roots go with whatever task is the first one;
every other child brings what it brings by itself, a task what its ordinal makes of it. -/
namespace GameRegistration

namespace Journal

/-- The journals have the same records and the same diagnostics, both in any order. -/
structure Permuted (a b : Journal) : Prop where
  failed_eq : a.failed = b.failed
  records_perm : a.records.Perm b.records
  diagnostics_perm : a.diagnostics.Perm b.diagnostics

namespace Permuted

theorem trans {a b c : Journal} (h : a.Permuted b) (h' : b.Permuted c) : a.Permuted c :=
  ⟨h.failed_eq.trans h'.failed_eq, h.records_perm.trans h'.records_perm,
    h.diagnostics_perm.trans h'.diagnostics_perm⟩

theorem of_sameOutline {a b : Journal} (h : a.SameOutline b) : a.Permuted b :=
  ⟨h.failed_eq, .of_eq h.records_eq, .of_eq h.diagnostics_eq⟩

end Permuted

theorem likeness_permuted : Likeness Permuted where
  refl _ := ⟨rfl, .refl _, .refl _⟩
  append h h' := by
    constructor
    · rw [failed_append, failed_append, h.failed_eq, h'.failed_eq]
    · rw [records_append, records_append]
      exact h.records_perm.append h'.records_perm
    · rw [diagnostics_append, diagnostics_append]
      exact h.diagnostics_perm.append h'.diagnostics_perm
  failed_eq h := h.failed_eq

end Journal

open Journal (Permuted likeness_permuted)

variable {setup : Setup}

theorem permuted_performAll {actions actions' : List Action} (h : actions.Perm actions') :
    (performAll setup actions).Permuted (performAll setup actions') where
  failed_eq := by rw [failed_performAll, failed_performAll, h.any_eq]
  records_perm := by
    rw [records_performAll, records_performAll]
    exact h.flatMap_right _
  diagnostics_perm := by
    rw [diagnostics_performAll, diagnostics_performAll]
    exact h.flatMap_right _

namespace Game

/-! The tasks and their ordinals -/

/-- The tasks of a kind are numbered in their order, whatever stands between them. -/
theorem filter_tasksAfter (kind : TaskKind) (before rest : List Element) :
    (tasksAfter before rest).filter (·.kind = kind) =
      (rest.filter (childRole · = .task kind)).mapIdx fun i c =>
        ⟨c, kind, .ofNat (taskCount kind before + i)⟩ := by
  induction rest generalizing before with
  | nil => rfl
  | cons c rest ih =>
    have hcount : taskCount kind (before ++ [c]) = taskCount kind before + taskCount kind [c] :=
      Progress.taskCount_append kind before [c]
    rw [tasksAfter]
    by_cases hself : childRole c = .task kind
    · rw [taskCount_cons_of_eq [] hself] at hcount
      rw [hself]
      dsimp only
      rw [List.filter_cons_of_pos (by simp), List.filter_cons_of_pos (by simp [hself]),
        List.mapIdx_cons, ih, hcount]
      simp [taskCount, Nat.add_assoc, Nat.add_comm 1]
    · rw [taskCount_cons_of_ne [] hself] at hcount
      rw [List.filter_cons_of_neg (by simp [hself])]
      change _ = taskCount kind before at hcount
      cases hrole : childRole c with
      | task other =>
        have hother : other ≠ kind := by
          rintro rfl
          exact hself hrole
        dsimp only
        rw [List.filter_cons_of_neg (by simp [hother]), ih, hcount]
      | _ =>
        dsimp only
        rw [ih, hcount]

theorem tasks_perm {game game' : Element}
    (h : ∀ kind : TaskKind, game.children.filter (childRole · = .task kind) =
      game'.children.filter (childRole · = .task kind)) : (tasks game).Perm (tasks game') := by
  have hkind (kind : TaskKind) :
      (tasks game).filter (·.kind = kind) = (tasks game').filter (·.kind = kind) := by
    rw [tasks, tasks, filter_tasksAfter, filter_tasksAfter, h kind]
  have hsplit (game : Element) : (tasks game).Perm
      ((tasks game).filter (·.kind = .play) ++ (tasks game).filter (·.kind = .support)) := by
    have hsupport : (tasks game).filter (fun t => !decide (t.kind = .play)) =
        (tasks game).filter (·.kind = .support) := by
      refine List.filter_congr fun t _ => ?_
      cases t.kind <;> rfl
    rw [← hsupport]
    exact (List.filter_append_perm _ _).symm
  refine (hsplit game).trans (.trans (.of_eq ?_) (hsplit game').symm)
  rw [hkind, hkind]

/-! The children by what they bring -/

/-- What is done with a child that is no task. -/
def strayActions (game c : Element) : List Action :=
  match childRole c with
  | .foreign => [.hand (.childOf game c)]
  | .unexpected => [.unexpectedElement game c]
  | .task _ => []

/-- What is done with a task, its gate being open. -/
def taskActions (game : Element) (file : FileContext) (t : NumberedTask) : List Action :=
  (TaskElement.plan t.kind t.element file (executableFile game file) t.ordinal).opened

/-- What is done for the roots among these children. -/
def rootActions (game : Element) (file : FileContext) (before rest : List Element) : List Action :=
  if Taskless before ∧ ¬ Taskless rest then
    Task.roots game.source ((instanceId game).getD "") file.componentId
  else []

theorem Progress.actions_ensure {before : List Element} {roots : TaskRoots} {ordinals : Ordinals}
    (h : Progress before roots ordinals) (source : SourcePosition) (guid component : String) :
    (roots.ensure source guid component).actions =
      if Taskless before then Task.roots source guid component else [] := by
  rw [h.roots_eq]
  split <;> rfl

theorem perm_opened_childrenPlan (game : Element) (file : FileContext) {before : List Element}
    {roots : TaskRoots} {ordinals : Ordinals} (h : Progress before roots ordinals)
    (rest : List Element) :
    (childrenPlan game file roots ordinals rest).opened.Perm
      (rootActions game file before rest ++
        (rest.flatMap (strayActions game) ++
          (tasksAfter before rest).flatMap (taskActions game file))) := by
  -- `before` grows with the walk; a task takes the roots if it is the first and leaves none for later.
  induction rest generalizing before roots ordinals with
  | nil => simp [childrenPlan, tasksAfter, rootActions, taskCount]
  | cons c rest ih =>
    have hbefore : Taskless (before ++ [c]) ↔ Taskless before ∧ Taskless [c] := taskless_append_iff
    have hrest : Taskless (c :: rest) ↔ Taskless [c] ∧ Taskless rest :=
      taskless_append_iff (a := [c])
    rw [childrenPlan, tasksAfter, List.flatMap_cons]
    cases hrole : childRole c with
    | task kind =>
      have hc : ¬ Taskless [c] := fun hc => taskless_singleton_iff.1 hc kind hrole
      have hlater : rootActions game file (before ++ [c]) rest = [] := by
        simp [rootActions, hbefore, hc]
      have hnow : rootActions game file before (c :: rest) =
          (roots.ensure game.source ((instanceId game).getD "") file.componentId).actions := by
        simp [rootActions, h.actions_ensure, hrest, hc]
      have hafter := ih (h.advance hrole)
      rw [hlater, List.nil_append] at hafter
      dsimp only
      rw [Plan.opened_append, Plan.opened_append, Plan.opened_ofActions, hnow, roots.value_ensure,
        h.ordinal_eq kind, strayActions, hrole, List.flatMap_cons, List.append_assoc]
      exact .append_left _ ((hafter.append_left _).trans (List.perm_append_comm_assoc ..))
    | foreign | unexpected =>
      have hc : Taskless [c] := taskless_singleton_iff.2 (by simp [hrole])
      have hroots : rootActions game file before (c :: rest) =
          rootActions game file (before ++ [c]) rest := by
        simp only [rootActions, hbefore.trans (and_iff_left hc), hrest.trans (and_iff_right hc)]
      have hafter := ih (h.skip (c := c) (by simp [hrole]))
      dsimp only
      rw [Plan.opened_act, hroots, strayActions, hrole, List.append_assoc]
      exact (hafter.cons _).trans List.perm_middle.symm

/-- The other game differs in the order of its children, with the tasks of each kind in their order. -/
structure Interleaved (game game' : Element) : Prop where
  eq_with_children : game' = { game with children := game'.children }
  children_perm : game.children.Perm game'.children
  tasks_eq (kind : TaskKind) : game.children.filter (childRole · = .task kind) =
    game'.children.filter (childRole · = .task kind)

namespace Interleaved
variable {game game' : Element} (h : Interleaved game game')
include h

theorem head_eq : game.head = game'.head := by rw [h.eq_with_children]; rfl

theorem taskless_iff : Taskless game.children ↔ Taskless game'.children := by
  rw [Taskless, Taskless, taskCount, taskCount, taskCount, taskCount, h.children_perm.countP_eq,
    h.children_perm.countP_eq]

theorem rootActions_eq (file : FileContext) :
    rootActions game file [] game.children = rootActions game' file [] game'.children := by
  have hvalues : rootActions game file [] game'.children =
      rootActions game' file [] game'.children := by
    rw [h.eq_with_children]
    rfl
  rw [← hvalues]
  simp only [rootActions, h.taskless_iff]

theorem taskActions_eq (file : FileContext) : taskActions game file = taskActions game' file := by
  rw [h.eq_with_children]
  rfl

theorem permuted_strayActions :
    (performAll setup (game.children.flatMap (strayActions game))).Permuted
      (performAll setup (game'.children.flatMap (strayActions game'))) := by
  -- A foreign child is handed on with all that its parent holds, so only the outlines are the same.
  have hparent : (performAll setup (game.children.flatMap (strayActions game))).Permuted
      (performAll setup (game.children.flatMap (strayActions game'))) := by
    refine likeness_permuted.performAll_flatMap fun c _ => .of_sameOutline ?_
    unfold strayActions
    cases childRole c with
    | task kind => exact Journal.likeness_sameOutline.refl _
    | foreign =>
      rw [performAll_singleton, performAll_singleton]
      exact setup.sameOutline_childOf h.head_eq rfl
    | unexpected =>
      rw [performAll_singleton, performAll_singleton]
      exact sameOutline_unexpectedElement h.head_eq rfl
  exact hparent.trans (permuted_performAll (h.children_perm.flatMap_right _))

theorem permuted_childrenPlan (file : FileContext) :
    (performAll setup (childrenPlan game file .noTasksSeen {} game.children).opened).Permuted
      (performAll setup (childrenPlan game' file .noTasksSeen {} game'.children).opened) := by
  have hsorted (game : Element) := perm_opened_childrenPlan game file .initial game.children
  refine (permuted_performAll (hsorted game)).trans
    (.trans ?_ (permuted_performAll (hsorted game').symm))
  rw [h.rootActions_eq, h.taskActions_eq]
  refine likeness_permuted.performAll_append (likeness_permuted.refl _)
    (likeness_permuted.performAll_append h.permuted_strayActions (permuted_performAll ?_))
  exact (tasks_perm h.tasks_eq).flatMap_right _

theorem permuted_plan (file : FileContext) :
    (performAll setup (plan game file).opened).Permuted
      (performAll setup (plan game' file).opened) := by
  have hends : missingId game ++ fileReferences game file ++ registration game file =
      missingId game' ++ fileReferences game' file ++ registration game' file := by
    rw [h.eq_with_children]
    rfl
  have hattributes : game'.attributes = game.attributes := by rw [h.eq_with_children]
  rw [opened_plan, opened_plan, List.append_assoc, List.append_assoc _ _ (registration game' file),
    hends, hattributes]
  refine likeness_permuted.performAll_append (likeness_permuted.performAll_append ?_
    (h.permuted_childrenPlan file)) (likeness_permuted.refl _)
  exact likeness_permuted.performAll_flatMap fun a _ =>
    .of_sameOutline (sameOutline_attributeActions h.head_eq a)

theorem onElement (context : Context) (parent : Element) :
    (performAll setup (Job.onElement context parent game).plan.opened).Permuted
      (performAll setup (Job.onElement context parent game').plan.opened) := by
  rw [Job.plan, Job.plan, Job.elementPlan, Job.elementPlan,
    ← Element.localName_of_head h.head_eq, ← Element.source_of_head h.head_eq]
  split
  · dsimp only
    rw [Plan.opened_append, Plan.opened_append]
    refine likeness_permuted.performAll_append (likeness_permuted.refl _) ?_
    split
    · exact h.permuted_plan _
    · exact likeness_permuted.refl _
  · rw [Plan.opened_act, Plan.opened_act, Plan.opened_nil, performAll_singleton, performAll_singleton]
    exact .of_sameOutline (sameOutline_unexpectedElement rfl h.head_eq)

end Interleaved

theorem task_subset_records {game : Element} {file : FileContext} {t : NumberedTask}
    (ht : t ∈ tasks game) (hclean : (performAll setup (plan game file).opened).failed = false) :
    Translation.task file (Translation.executable file game) t.element t.kind t.ordinal ⊆
      (performAll setup (plan game file).opened).records := by
  have hactions : taskActions game file t ⊆ (plan game file).opened := by
    intro a ha
    have hchildren := (perm_opened_childrenPlan game file .initial game.children).mem_iff (a := a)
    simp only [opened_plan, List.mem_append, hchildren]
    exact .inl (.inl (.inr (.inr (.inr (List.mem_flatMap.2 ⟨t, ht, ha⟩)))))
  have htask : (performAll setup (taskActions game file t)).failed = false := by
    rw [performAll_clean_iff] at hclean ⊢
    exact fun a ha => hclean a (hactions ha)
  have hrecords : (performAll setup (taskActions game file t)).records = _ :=
    TaskElement.yields_plan t.kind t.element file (executableFile game file) t.ordinal htask
  intro r hr
  have hmem : r ∈ (performAll setup (taskActions game file t)).records := by
    rw [hrecords, executableFile_eq]
    exact List.mem_append_right _ hr
  rw [records_performAll, List.mem_flatMap] at hmem ⊢
  obtain ⟨a, ha, hra⟩ := hmem
  exact ⟨a, hactions ha, hra⟩

end Game

theorem Job.game?_of_interleaved {context : Context} {parent game game' : Element}
    {file : FileContext} (h : Game.Interleaved game game')
    (hgame : (onElement context parent game).game? = some (file, game)) :
    (onElement context parent game').game? = some (file, game') := by
  obtain ⟨⟨parent', hparent, hname, hjob⟩, hfile, hcomponent, hdirectory⟩ := context_of_game? hgame
  cases hjob
  rw [Element.localName_of_head h.head_eq] at hname
  simp_all [game?, FileContext.resolve, Context.require, Job.context]

/-- In which order the children stand does not matter to a game that starts without an error, under any
setup, as long as the tasks of each kind keep theirs. Whether an error comes up is the same, and if none
does the records are, up to their order; every task keeps its ordinal, and with it its directory and its
shortcut under the same names. -/
theorem Job.interleaved_onElement (setup : Setup) (context : Context) (parent game game' : Element)
    (h : Game.Interleaved game game') :
    (((onElement context parent game).perform setup false).failed = false ↔
      ((onElement context parent game').perform setup false).failed = false) ∧
    (Game.tasks game).Perm (Game.tasks game') ∧
    (((onElement context parent game).perform setup false).failed = false →
      ((onElement context parent game).perform setup false).records.Perm
          ((onElement context parent game').perform setup false).records ∧
        ((onElement context parent game).perform setup false).diagnostics.Perm
          ((onElement context parent game').perform setup false).diagnostics ∧
        ∃ file, (onElement context parent game).game? = some (file, game) ∧
          ∀ t ∈ Game.tasks game,
            Translation.task file (Translation.executable file game) t.element t.kind t.ordinal ⊆
                ((onElement context parent game).perform setup false).records ∧
              Translation.task file (Translation.executable file game) t.element t.kind t.ordinal ⊆
                ((onElement context parent game').perform setup false).records) := by
  have hopened : (performAll setup (onElement context parent game).plan.opened).Permuted
      (performAll setup (onElement context parent game').plan.opened) := h.onElement context parent
  have htasks : (Game.tasks game).Perm (Game.tasks game') := Game.tasks_perm h.tasks_eq
  simp only [Job.perform]
  have hiff : (Plan.perform setup false (onElement context parent game).plan).failed = false ↔
      (Plan.perform setup false (onElement context parent game').plan).failed = false := by
    rw [Plan.clean_iff, Plan.clean_iff, hopened.failed_eq]
  refine ⟨hiff, htasks, fun hclean => ?_⟩
  have hclean' := hiff.1 hclean
  obtain ⟨file, hgame⟩ := game?_of_clean hclean
  have hplan := plan_of_game? hgame
  have hplan' := plan_of_game? (game?_of_interleaved h hgame)
  rw [Plan.perform_of_clean setup hclean, Plan.perform_of_clean setup hclean']
  rw [Plan.clean_iff] at hclean hclean'
  refine ⟨hopened.records_perm, hopened.diagnostics_perm, file, hgame, fun t ht => ?_⟩
  have hexecutable : Translation.executable file game' = Translation.executable file game := by
    rw [h.eq_with_children]
    rfl
  rw [hplan] at hclean ⊢
  rw [hplan'] at hclean' ⊢
  refine ⟨Game.task_subset_records ht hclean, ?_⟩
  rw [← hexecutable]
  exact Game.task_subset_records (htasks.mem_iff.1 ht) hclean'

namespace Sample

def safeTask : Element := element "PlayTask" [("Name", "Play safely"), ("Arguments", "-safe")]

def groupedGame : Element := game [] [playTask, safeTask, supportTask, foreignChild]

def shuffledGame : Element :=
  { groupedGame with children := [supportTask, playTask, foreignChild, safeTask] }

theorem interleaved_shuffledGame : Game.Interleaved groupedGame shuffledGame where
  eq_with_children := rfl
  children_perm :=
    have hsupport : [playTask, safeTask, supportTask].Perm [supportTask, playTask, safeTask] :=
      @List.perm_append_comm _ [playTask, safeTask] [supportTask]
    (hsupport.append_right [foreignChild]).trans (.append_left [supportTask, playTask] (.swap ..))
  tasks_eq kind := by cases kind <;> rfl

end Sample

theorem Job.interleaved_groupedGame :
    ((Sample.job Sample.groupedGame).perform Sample.accepting false).failed = false ∧
    ((Sample.job Sample.groupedGame).perform Sample.accepting false).records.Perm
      ((Sample.job Sample.shuffledGame).perform Sample.accepting false).records ∧
    ((Sample.job Sample.groupedGame).perform Sample.accepting false).records.map Record.key ≠
      ((Sample.job Sample.shuffledGame).perform Sample.accepting false).records.map Record.key := by
  have hclean : ((Sample.job Sample.groupedGame).perform Sample.accepting false).failed = false := by
    decide
  obtain ⟨-, -, hrecords⟩ := interleaved_onElement Sample.accepting Sample.context Sample.file
    Sample.groupedGame Sample.shuffledGame Sample.interleaved_shuffledGame
  exact ⟨hclean, (hrecords hclean).1, by decide⟩

end GameRegistration
