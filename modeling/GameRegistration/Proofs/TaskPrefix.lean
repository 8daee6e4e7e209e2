import Mathlib.Data.List.Induction
import Mathlib.Data.List.TakeWhile
import GameRegistration.Proofs.GameRecords

/-! Which tasks of a game get their directories, in any run: those before the first gate that is
reached with an error on record. Every task is counted, whatever becomes of it. -/
namespace GameRegistration

/-! Directories of tasks -/

/-- Roots lie in the target directory, and directories of tasks in the roots. -/
def Record.taskDirectory? (r : Record) : Option DirectoryRecord :=
  r.directory?.filter fun d => d.parentRef != Task.targetDirectory

def Journal.taskDirectories (j : Journal) : List DirectoryRecord :=
  j.records.filterMap Record.taskDirectory?

@[simp] theorem Journal.taskDirectories_append (a b : Journal) :
    (a ++ b).taskDirectories = a.taskDirectories ++ b.taskDirectories := by
  simp [taskDirectories]

variable (setup : Setup)

theorem Record.taskDirectory?_of_not_isGated {r : Record} (h : r.isGated = false) :
    r.taskDirectory? = none := by
  cases r with
  | directory d =>
    have hparent : (d.parentRef != Task.targetDirectory) = false := h
    simp [taskDirectory?, directory?, Option.filter, hparent]
  | _ => rfl

theorem Record.taskDirectory?_of_parentRef_ne {d : DirectoryRecord}
    (h : d.parentRef ≠ Task.targetDirectory) : (Record.directory d).taskDirectory? = some d := by
  simp [taskDirectory?, directory?, Option.filter, h]

theorem taskDirectories_of_isFree {actions : List Action} (h : ∀ a ∈ actions, a.isFree = true) :
    (performAll setup actions).taskDirectories = [] := by
  rw [Journal.taskDirectories, List.filterMap_eq_nil_iff]
  intro r hr
  obtain ⟨e, he, her⟩ := List.mem_filterMap.1 hr
  have hgated := performAll_not_gated setup h e he
  cases e with
  | record origin r' =>
    cases her
    exact Record.taskDirectory?_of_not_isGated hgated
  | _ => cases her

theorem taskDirectories_emit (r : Record) :
    (performAll setup [.emit r]).taskDirectories = r.taskDirectory?.toList := by
  cases h : r.taskDirectory? <;>
    simp [performAll, Action.perform, Journal.emit, Journal.taskDirectories, Journal.records,
      Entry.record?, h]

theorem taskDirectories_requestLink (link : SupportLink) :
    (performAll setup [.requestLink link]).taskDirectories = [] := by
  rw [performAll_singleton, Action.perform]
  obtain ⟨-, h⟩ | ⟨_, -, -, h⟩ | ⟨_, -, -, h⟩ := setup.link_cases link <;> rw [h] <;> rfl

theorem Task.taskDirectories_directory (source : SourcePosition) (component : String) (kind : TaskKind)
    (ordinal : UInt32) :
    (performAll setup (directory source component kind ordinal).actions).taskDirectories =
      [{ source, id := kind.taskStem ++ toString ordinal ++ "_" ++ component
         parentRef := kind.rootStem ++ "_" ++ component, name := toString ordinal }] := by
  have hids : ∀ a ∈ (rootId source kind component).actions ++
      (directoryId source (stem kind ordinal) component).actions, a.isFree = true := by
    intro a ha
    obtain ha | ha := List.mem_append.1 ha
    · exact Action.isFree_of_isReport (isReport_directoryId source kind.rootStem component a ha)
    · exact Action.isFree_of_isReport (isReport_directoryId source _ component a ha)
  rw [directory, performAll_append, Journal.taskDirectories_append, taskDirectories_of_isFree setup hids,
    taskDirectories_emit, List.nil_append]
  exact congrArg Option.toList
    (Record.taskDirectory?_of_parentRef_ne (rootId_ne_targetDirectory kind component))

namespace TaskElement

theorem taskDirectories_emission {kind : TaskKind} {task : Element} (file : FileContext)
    (executable : String) (ordinal : UInt32) (h : missing kind task = []) :
    (performAll setup (emission kind task file executable ordinal)).taskDirectories =
      [{ source := task.source, id := kind.taskStem ++ toString ordinal ++ "_" ++ file.componentId
         parentRef := kind.rootStem ++ "_" ++ file.componentId, name := toString ordinal }] := by
  obtain ⟨name, hname⟩ := nameOf_of_missing_eq_nil h
  cases kind with
  | play =>
    rw [emission_play file executable ordinal hname, performAll_append, Journal.taskDirectories_append,
      Task.taskDirectories_directory, taskDirectories_emit]
    rfl
  | support =>
    obtain ⟨address, haddress⟩ := addressOf_of_missing_eq_nil h
    rw [emission_support file executable ordinal hname haddress, performAll_append,
      Journal.taskDirectories_append, Task.taskDirectories_directory, taskDirectories_requestLink]
    rfl

end TaskElement

/-! The walk over the children -/

/-- Whether an error is on record after a plan. -/
def Plan.failedAfter (failed : Bool) (p : Plan) : Bool := failed || (perform setup failed p).failed

theorem Plan.failedAfter_append (failed : Bool) (p q : Plan) :
    failedAfter setup failed (p ++ q) = failedAfter setup (failedAfter setup failed p) q := by
  rw [failedAfter, failedAfter, failedAfter, perform_append, Journal.failed_append, Bool.or_assoc]

namespace Game

def pass (w : TaskRoots × Ordinals) (c : Element) : TaskRoots × Ordinals :=
  match childRole c with
  | .task kind => (.rootsEmitted, w.2.advance kind)
  | .foreign | .unexpected => w

/-- What the walk carries along behind these children. -/
def passed (before : List Element) : TaskRoots × Ordinals := before.foldl pass (.noTasksSeen, {})

variable (game : Element) (file : FileContext)

theorem childrenPlan_append (w : TaskRoots × Ordinals) (before rest : List Element) :
    childrenPlan game file w.1 w.2 (before ++ rest) =
      childrenPlan game file w.1 w.2 before ++
        childrenPlan game file (before.foldl pass w).1 (before.foldl pass w).2 rest := by
  induction before generalizing w with
  | nil => rfl
  | cons c before ih =>
    rw [List.cons_append, childrenPlan, childrenPlan, List.foldl_cons]
    cases hrole : childRole c with
    | foreign =>
      have hpass : pass w c = w := by rw [pass, hrole]
      rw [hpass]
      exact congrArg _ (ih w)
    | unexpected =>
      have hpass : pass w c = w := by rw [pass, hrole]
      rw [hpass]
      exact congrArg _ (ih w)
    | task kind =>
      have hpass : pass w c = (.rootsEmitted, w.2.advance kind) := by rw [pass, hrole]
      have hlater := ih (.rootsEmitted, w.2.advance kind)
      dsimp only at hlater ⊢
      rw [hpass, w.1.value_ensure, hlater]
      simp only [List.append_assoc]

theorem progress_passed (before : List Element) :
    Progress before (passed before).1 (passed before).2 := by
  induction before using List.reverseRecOn with
  | nil => exact .initial
  | append_singleton before c ih =>
    rw [passed, List.foldl_append, List.foldl_cons, List.foldl_nil, pass]
    cases hrole : childRole c with
    | task kind => exact ih.advance hrole
    | _ => exact ih.skip (by simp [hrole])

end Game

/-- A task of a game behind these children. -/
structure PlacedTask where
  before : List Element
  element : Element
  kind : TaskKind

namespace PlacedTask

variable (t : PlacedTask)

/-- How many tasks of its kind come before the task. -/
def count : Nat := Game.taskCount t.kind t.before

def directory (file : FileContext) : DirectoryRecord where
  source := t.element.source
  id := t.kind.taskStem ++ toString t.count ++ "_" ++ file.componentId
  parentRef := t.kind.rootStem ++ "_" ++ file.componentId
  name := toString t.count

end PlacedTask

namespace Game

variable (game : Element) (file : FileContext)

/-- The tasks among the children behind those in `before`, in their places. -/
def placedAfter (before : List Element) : List Element → List PlacedTask
  | [] => []
  | c :: rest =>
    match childRole c with
    | .task kind => ⟨before, c, kind⟩ :: placedAfter (before ++ [c]) rest
    | .foreign | .unexpected => placedAfter (before ++ [c]) rest

def placed (children : List Element) : List PlacedTask := placedAfter [] children

theorem placedAfter_append (before a b : List Element) :
    placedAfter before (a ++ b) = placedAfter before a ++ placedAfter (before ++ a) b := by
  induction a generalizing before with
  | nil => simp [placedAfter]
  | cons c a ih =>
    have hlater := ih (before ++ [c])
    rw [List.append_assoc, List.singleton_append] at hlater
    rw [List.cons_append, placedAfter, placedAfter]
    cases childRole c with
    | task kind => exact congrArg _ hlater
    | _ => exact hlater

theorem placed_append_of_task {before : List Element} {c : Element} {kind : TaskKind}
    (h : childRole c = .task kind) : placed (before ++ [c]) = placed before ++ [⟨before, c, kind⟩] := by
  rw [placed, placedAfter_append, List.nil_append, placedAfter, h]
  rfl

theorem placed_append_of_not_task {before : List Element} {c : Element}
    (h : ∀ kind, childRole c ≠ .task kind) : placed (before ++ [c]) = placed before := by
  rw [placed, placedAfter_append, List.nil_append, placedAfter]
  cases hrole : childRole c with
  | task kind => exact absurd hrole (h kind)
  | _ => exact List.append_nil _

/-- What is done until these children are done with. -/
def opening (before : List Element) : Plan :=
  Plan.ofActions (game.attributes.flatMap (attributeActions game)) ++
    childrenPlan game file .noTasksSeen {} before

/-- What is done until the gate of a task is reached. -/
def approach (t : PlacedTask) : Plan :=
  opening game file t.before ++
    Plan.ofActions (((passed t.before).1.ensure game.source ((instanceId game).getD "")
      file.componentId).actions ++ TaskElement.checks t.kind t.element)

def taskGate (t : PlacedTask) : Step :=
  .gate [] (TaskElement.emission t.kind t.element file (executableFile game file)
    ((passed t.before).2.get t.kind))

theorem opening_append (before rest : List Element) :
    opening game file (before ++ rest) =
      opening game file before ++ childrenPlan game file (passed before).1 (passed before).2 rest := by
  have hsplit := childrenPlan_append game file (.noTasksSeen, {}) before rest
  exact (congrArg _ hsplit).trans (List.append_assoc ..).symm

theorem opening_append_of_task {before : List Element} {c : Element} {kind : TaskKind}
    (h : childRole c = .task kind) :
    opening game file (before ++ [c]) =
      approach game file ⟨before, c, kind⟩ ++ [taskGate game file ⟨before, c, kind⟩] := by
  rw [opening_append, childrenPlan, h, approach, taskGate]
  simp [childrenPlan, TaskElement.plan, Plan.ofActions]

theorem childrenPlan_of_not_task {c : Element} (w : TaskRoots × Ordinals)
    (h : ∀ kind, childRole c ≠ .task kind) :
    ∃ a : Action, a.isFree = true ∧ childrenPlan game file w.1 w.2 [c] = Plan.ofActions [a] := by
  rw [childrenPlan]
  cases hrole : childRole c with
  | task kind => exact absurd hrole (h kind)
  | foreign => exact ⟨_, rfl, rfl⟩
  | unexpected => exact ⟨_, rfl, rfl⟩

/-! Refusals -/

/-- Whether an error is on record when the gate of the task is reached. -/
def isRefused (failed : Bool) (t : PlacedTask) : Bool :=
  Plan.failedAfter setup failed (approach game file t)

theorem exists_opening_eq {children : List Element} :
    ∀ t ∈ placed children, ∃ rest,
      opening game file children = approach game file t ++ taskGate game file t :: rest := by
  -- From the last child, since what is carried to a task depends on all that come before it.
  induction children using List.reverseRecOn with
  | nil => exact nofun
  | append_singleton before c ih =>
    have hearlier : ∀ t ∈ placed before, ∃ rest, opening game file (before ++ [c]) =
        approach game file t ++ taskGate game file t :: rest := by
      intro t ht
      obtain ⟨rest, hrest⟩ := ih t ht
      exact ⟨_, by rw [opening_append, hrest, List.append_assoc, List.cons_append]⟩
    by_cases htask : ∃ kind, childRole c = .task kind
    · obtain ⟨kind, hrole⟩ := htask
      rw [placed_append_of_task hrole]
      intro t ht
      obtain ht | ht := List.mem_append.1 ht
      · exact hearlier t ht
      · rw [List.mem_singleton.1 ht]
        exact ⟨[], opening_append_of_task game file hrole⟩
    · rw [placed_append_of_not_task (not_exists.1 htask)]
      exact hearlier

theorem failedAfter_opening_of_isRefused {failed : Bool} {children : List Element} {t : PlacedTask}
    (ht : t ∈ placed children) (h : isRefused setup game file failed t = true) :
    Plan.failedAfter setup failed (opening game file children) = true := by
  obtain ⟨rest, hrest⟩ := exists_opening_eq game file t ht
  rw [isRefused] at h
  rw [hrest, Plan.failedAfter_append, h]
  rfl

theorem missing_of_not_isRefused {failed : Bool} {t : PlacedTask}
    (h : isRefused setup game file failed t = false) : TaskElement.missing t.kind t.element = [] := by
  refine TaskElement.missing_eq_nil_of_clean setup fun a ha => ?_
  rw [isRefused, approach, Plan.failedAfter_append, Plan.failedAfter, Plan.perform_ofActions,
    Bool.or_eq_false_iff, performAll_clean_iff] at h
  refine h.2 a ?_
  simp [TaskElement.checks, ha]

theorem taskDirectories_taskGate (failed : Bool) {t : PlacedTask} (hfit : t.count < UInt32.size) :
    (Plan.perform setup (isRefused setup game file failed t) [taskGate game file t]).taskDirectories =
      if isRefused setup game file failed t then [] else [t.directory file] := by
  have hordinal : (passed t.before).2.get t.kind = .ofNat t.count :=
    (progress_passed t.before).ordinal_eq t.kind
  have hname : toString (UInt32.ofNat t.count) = toString t.count :=
    congrArg Nat.repr (UInt32.toNat_ofNat_of_lt' hfit)
  rw [Plan.perform_singleton, taskGate, Step.perform]
  cases hrefused : isRefused setup game file failed t with
  | true => rfl
  | false =>
    have hemission := TaskElement.taskDirectories_emission setup file (executableFile game file)
      (.ofNat t.count) (missing_of_not_isRefused setup game file hrefused)
    rw [hname] at hemission
    rw [hordinal]
    exact hemission

theorem taskDirectories_approach {failed : Bool} {t : PlacedTask} :
    (Plan.perform setup failed (approach game file t)).taskDirectories =
      (Plan.perform setup failed (opening game file t.before)).taskDirectories := by
  have hfree : ∀ a ∈ ((passed t.before).1.ensure game.source ((instanceId game).getD "")
      file.componentId).actions ++ TaskElement.checks t.kind t.element, a.isFree = true := by
    intro a ha
    obtain ha | ha := List.mem_append.1 ha
    · exact TaskRoots.isFree_ensure _ _ _ _ a ha
    · exact TaskElement.isFree_checks t.kind t.element a ha
  rw [approach, Plan.perform_append, Journal.taskDirectories_append, Plan.perform_ofActions,
    taskDirectories_of_isFree setup hfree, List.append_nil]

/-- One more task: it gets its directory if it is not refused, and then none before it was. -/
theorem takeWhile_placed_append (failed : Bool) (t : PlacedTask) :
    (placed t.before ++ [t]).takeWhile (fun t => !isRefused setup game file failed t) =
      (placed t.before).takeWhile (fun t => !isRefused setup game file failed t) ++
        if isRefused setup game file failed t then [] else [t] := by
  cases hrefused : isRefused setup game file failed t with
  | true =>
    rw [List.takeWhile_append]
    simpa [hrefused] using fun h => ((List.takeWhile_prefix _).eq_of_length h).symm
  | false =>
    -- An earlier refusal would still be on record at this gate.
    have hall : ∀ t' ∈ placed t.before, (!isRefused setup game file failed t') = true := by
      intro t' ht'
      cases hrefused' : isRefused setup game file failed t' with
      | false => rfl
      | true =>
        have hfailed := failedAfter_opening_of_isRefused setup game file ht' hrefused'
        rw [isRefused, approach, Plan.failedAfter_append, hfailed] at hrefused
        cases hrefused
    rw [List.takeWhile_append_of_pos hall, List.takeWhile_eq_self_iff.2 hall]
    simp [hrefused]

theorem taskDirectories_opening {failed : Bool} {children : List Element}
    (hfit : ∀ kind, taskCount kind children < UInt32.size) :
    (Plan.perform setup failed (opening game file children)).taskDirectories =
      ((placed children).takeWhile fun t => !isRefused setup game file failed t).map
        fun t => t.directory file := by
  induction children using List.reverseRecOn with
  | nil =>
    rw [opening, childrenPlan, List.append_nil, Plan.perform_ofActions]
    exact taskDirectories_of_isFree setup (isFree_attributes game)
  | append_singleton before c ih =>
    have hearlier (kind : TaskKind) : taskCount kind before < UInt32.size := by
      have hkind := hfit kind
      rw [Progress.taskCount_append] at hkind
      omega
    by_cases htask : ∃ kind, childRole c = .task kind
    · obtain ⟨kind, hrole⟩ := htask
      have hfit : (PlacedTask.mk before c kind).count < UInt32.size := hearlier kind
      have hgate := taskDirectories_taskGate setup game file failed hfit
      have htake := takeWhile_placed_append setup game file failed ⟨before, c, kind⟩
      dsimp only at htake
      rw [opening_append_of_task game file hrole, placed_append_of_task hrole, htake, List.map_append,
        Plan.perform_append, Journal.taskDirectories_append, taskDirectories_approach, ih hearlier]
      refine congrArg _ (hgate.trans ?_)
      split <;> rfl
    · have hrole := not_exists.1 htask
      obtain ⟨a, hfree, hplan⟩ := childrenPlan_of_not_task game file (passed before) hrole
      rw [opening_append, placed_append_of_not_task hrole, Plan.perform_append,
        Journal.taskDirectories_append, hplan, Plan.perform_ofActions,
        taskDirectories_of_isFree setup (List.forall_mem_singleton.2 hfree), List.append_nil]
      exact ih hearlier

theorem taskDirectories_registration :
    (performAll setup (registration game file)).taskDirectories = [] := by
  rw [registration]
  cases instanceId game <;> rfl

theorem plan_eq_opening : plan game file = opening game file game.children ++
    (Plan.ofActions (missingId game ++ fileReferences game file) ++
      [.gate [.note (.registrationSuppressed game.source)] (registration game file)]) :=
  List.append_assoc ..

theorem exists_plan_eq {t : PlacedTask} (ht : t ∈ placed game.children) :
    ∃ rest, plan game file = approach game file t ++ taskGate game file t :: rest := by
  obtain ⟨rest, hrest⟩ := exists_opening_eq game file t ht
  exact ⟨_, by rw [plan_eq_opening, hrest, List.append_assoc, List.cons_append]⟩

theorem taskDirectories_plan {failed : Bool}
    (hfit : ∀ kind, taskCount kind game.children < UInt32.size) :
    (Plan.perform setup failed (plan game file)).taskDirectories =
      ((placed game.children).takeWhile fun t => !isRefused setup game file failed t).map
        fun t => t.directory file := by
  have hends := taskDirectories_of_isFree setup (isFree_ends game file)
  have hlast (closed : Bool) : (Plan.perform setup closed
      [.gate [.note (.registrationSuppressed game.source)]
        (registration game file)]).taskDirectories = [] := by
    rw [Plan.perform_singleton, Step.perform]
    cases closed with
    | true => rfl
    | false => exact taskDirectories_registration setup game file
  rw [plan_eq_opening, Plan.perform_append, Journal.taskDirectories_append, Plan.perform_append,
    Journal.taskDirectories_append, Plan.perform_ofActions, hends, hlast, List.nil_append,
    List.append_nil, taskDirectories_opening setup game file hfit]

/-! Names -/

theorem counts_placed (kind : TaskKind) (children : List Element) :
    ((placed children).filter fun t => t.kind = kind).map PlacedTask.count =
      List.range (taskCount kind children) := by
  induction children using List.reverseRecOn with
  | nil => rfl
  | append_singleton before c ih =>
    by_cases htask : ∃ kind, childRole c = .task kind
    · obtain ⟨other, hrole⟩ := htask
      rw [placed_append_of_task hrole, List.filter_append, List.map_append, ih,
        Progress.taskCount_append]
      by_cases hkind : other = kind
      · subst hkind
        rw [taskCount_cons_of_eq [] hrole]
        simp [List.range_succ, PlacedTask.count, taskCount]
      · have hother : childRole c ≠ .task kind := fun h =>
          hkind (ChildRole.task.inj (hrole.symm.trans h))
        rw [taskCount_cons_of_ne [] hother]
        simp [hkind, taskCount]
    · have hrole := not_exists.1 htask
      rw [placed_append_of_not_task hrole, Progress.taskCount_append,
        taskCount_cons_of_ne [] (hrole kind)]
      exact ih

theorem count_lt_of_mem_placed {children : List Element} {t : PlacedTask} (ht : t ∈ placed children) :
    t.count < taskCount t.kind children := by
  rw [← List.mem_range, ← counts_placed]
  exact List.mem_map_of_mem (List.mem_filter.2 ⟨ht, by simp⟩)

theorem eq_range_of_prefix {counts : List Nat} {n : Nat} (h : counts <+: List.range n) :
    counts = List.range counts.length := by
  have hlength : counts.length ≤ n := by simpa using h.length_le
  calc
    counts = (List.range n).take counts.length := List.prefix_iff_eq_take.1 h
    _ = List.range counts.length := by rw [List.take_range, Nat.min_eq_left hlength]

theorem names_of_prefix {children : List Element} {ts : List PlacedTask} (h : ts <+: placed children)
    (kind : TaskKind) : ∃ n, ((ts.map fun t => t.directory file).filter fun d =>
        d.parentRef = kind.rootStem ++ "_" ++ file.componentId).map (·.name) =
      (List.range n).map toString := by
  have hkind (t : PlacedTask) :
      (t.directory file).parentRef = kind.rootStem ++ "_" ++ file.componentId ↔ t.kind = kind := by
    rw [PlacedTask.directory, String.append_left_inj, String.append_left_inj]
    cases t.kind <;> cases kind <;> decide
  have hcounts : (ts.filter fun t => t.kind = kind).map PlacedTask.count <+:
      List.range (taskCount kind children) := counts_placed kind children ▸ (h.filter _).map _
  refine ⟨((ts.filter fun t => t.kind = kind).map PlacedTask.count).length, ?_⟩
  rw [← eq_range_of_prefix hcounts, List.filter_map, List.map_map, List.map_map]
  simp only [Function.comp_def, hkind]
  rfl

end Game

/-- Which tasks of a game get their directories, after any earlier errors and under any setup: those
before the first one that is refused at its gate. A directory is named by the number of tasks of its
kind before it, so that in each kind the names go up from zero. The counters do not overflow. -/
theorem Job.taskDirectories_onElement (failed : Bool) (context : Context) (parent game : Element)
    (file : FileContext) (hparent : parent.localName = "File") (hgame : game.localName = "Game")
    (hfile : context.get? Context.fileId = some file.fileId)
    (hcomponent : context.get? Context.componentId = some file.componentId)
    (hdirectory : context.get? Context.directoryId = some file.directoryId)
    (hfit : ∀ kind, Game.taskCount kind game.children < UInt32.size) :
    (Plan.perform setup failed (onElement context parent game).plan).taskDirectories =
        ((Game.placed game.children).takeWhile fun t => !Game.isRefused setup game file failed t).map
          (fun t => t.directory file) ∧
      (failed = true →
        (Plan.perform setup failed (onElement context parent game).plan).taskDirectories = []) ∧
      (∀ kind : TaskKind, ∃ n,
        (((Plan.perform setup failed (onElement context parent game).plan).taskDirectories.filter
          fun d => d.parentRef = kind.rootStem ++ "_" ++ file.componentId).map (·.name)) =
            (List.range n).map toString) ∧
      ∀ t ∈ Game.placed game.children, ∃ ordinal rest,
        (onElement context parent game).plan = Game.approach game file t ++
          .gate [] (TaskElement.emission t.kind t.element file (Game.executableFile game file) ordinal) ::
            rest ∧
        ordinal.toNat = t.count ∧ (ordinal + 1).toNat = t.count + 1 := by
  have hplan : (onElement context parent game).plan = Game.plan game file :=
    elementPlan_of_context hparent hgame hfile hcomponent hdirectory
  have hall : (Plan.perform setup failed (Game.plan game file)).taskDirectories = _ :=
    Game.taskDirectories_plan setup game file hfit
  rw [hplan, hall]
  refine ⟨rfl, ?_, fun kind => Game.names_of_prefix file (List.takeWhile_prefix _) kind, ?_⟩
  · rintro rfl
    simp [Game.isRefused, Plan.failedAfter]
  · intro t ht
    obtain ⟨rest, hrest⟩ := Game.exists_plan_eq game file ht
    have hordinal := (Game.progress_passed t.before).ordinal_eq t.kind
    have hlimit : t.count + 1 < UInt32.size :=
      Nat.lt_of_le_of_lt (Game.count_lt_of_mem_placed ht) (hfit t.kind)
    refine ⟨_, rest, hrest, ?_, ?_⟩
    · rw [hordinal]
      exact UInt32.toNat_ofNat_of_lt' (Nat.lt_of_succ_lt hlimit)
    · rw [hordinal, ← UInt32.ofNat_one, ← UInt32.ofNat_add]
      exact UInt32.toNat_ofNat_of_lt' hlimit

/-- Nothing makes the link of the support task, so that the second play task is refused. -/
def Sample.haltedGame : Element := game [] [playTask, foreignChild, supportTask, playTask]

theorem Job.taskDirectories_haltedGame :
    (Plan.perform { foreign := .accept } false (Sample.job Sample.haltedGame).plan).taskDirectories.map
      (fun d => (d.id, d.name)) =
        [("WixPlayTask0_GameComp", "0"), ("WixSupportTask0_GameComp", "0")] := by
  have hfit : ∀ kind, Game.taskCount kind Sample.haltedGame.children < UInt32.size := by
    intro kind
    cases kind <;> decide
  have hdirectories := (taskDirectories_onElement { foreign := .accept } false Sample.context Sample.file
    Sample.haltedGame Sample.fileContext rfl rfl rfl rfl rfl hfit).1
  refine (congrArg _ hdirectories).trans ?_
  decide +kernel

end GameRegistration
