import Mathlib.Data.List.Nodup
import GameRegistration.Proofs.TaskDirectory
import GameRegistration.Proofs.TranslationViews

/-! Places of directories: the root of a kind, or that of one task. An identifier tells its place
and its component apart, for no stem holds the separator. -/
namespace GameRegistration

namespace Identifier

theorem toList_compose (stem owner : String) :
    (compose stem owner).toList = stem.toList ++ '_' :: owner.toList := by
  simp [compose]

/-- The first separator ends the stem; the owner may hold others. -/
theorem compose_inj {stem stem' owner owner' : String} (h : '_' ∉ stem.toList)
    (h' : '_' ∉ stem'.toList) :
    compose stem owner = compose stem' owner' ↔ stem = stem' ∧ owner = owner' := by
  rw [← String.toList_inj, toList_compose, toList_compose, Text.append_separator_inj h h',
    String.toList_inj, String.toList_inj]

end Identifier

namespace Task

inductive Place where
  | root (kind : TaskKind)
  | task (kind : TaskKind) (ordinal : UInt32)
deriving DecidableEq

theorem ordinal_inj {a b : UInt32} (h : toString a = toString b) : a = b := by
  have hdigits : Nat.toDigits 10 a.toNat = Nat.toDigits 10 b.toNat := by
    rw [← Nat.toList_repr, ← Nat.toList_repr]
    exact congrArg String.toList h
  have hread := congrArg (fun digits => Nat.ofDigitChars 10 digits 0) hdigits
  exact UInt32.toNat_inj.1 (by simpa using hread)

namespace Place

def stem : Place → String
  | root kind => kind.rootStem
  | task kind ordinal => Task.stem kind ordinal

def id (p : Place) (component : String) : String := Identifier.compose p.stem component

theorem separator_notMem_stem (p : Place) : '_' ∉ p.stem.toList := by
  cases p with
  | root kind => cases kind <;> decide
  | task kind ordinal =>
    have hstem : '_' ∉ kind.taskStem.toList := by cases kind <;> decide
    rw [stem, Task.stem, String.toList_append, List.mem_append]
    rintro (h | h)
    · exact hstem h
    · exact absurd (isDigit_of_mem_ordinal h) (by decide)

/-- The stem of a root goes on with a letter where that of a task has its ordinal. -/
theorem rootStem_ne_stem (kind kind' : TaskKind) (ordinal : UInt32) :
    kind.rootStem ≠ Task.stem kind' ordinal := by
  intro h
  have hletter : 's' ∈ (toString ordinal).toList → False := fun hmem =>
    absurd (isDigit_of_mem_ordinal hmem) (by decide)
  have hchars := congrArg String.toList h
  rw [Task.stem, String.toList_append] at hchars
  cases kind <;> cases kind' <;> simp [TaskKind.rootStem, TaskKind.taskStem] at hchars
  all_goals exact hletter (by simp [← hchars])

theorem stem_task_inj {kind kind' : TaskKind} {ordinal ordinal' : UInt32}
    (h : Task.stem kind ordinal = Task.stem kind' ordinal') : kind = kind' ∧ ordinal = ordinal' := by
  have hkind : kind = kind' := by
    have hchars := congrArg String.toList h
    rw [Task.stem, Task.stem, String.toList_append, String.toList_append] at hchars
    cases kind <;> cases kind' <;> simp [TaskKind.taskStem] at hchars ⊢
  rw [hkind, Task.stem, Task.stem, String.append_right_inj] at h
  exact ⟨hkind, ordinal_inj h⟩

theorem stem_injective : Function.Injective stem := by
  intro p q h
  cases p with
  | root kind =>
    cases q with
    | root kind' => cases kind <;> cases kind' <;> first | rfl | exact absurd h (by decide)
    | task kind' ordinal' => exact absurd h (rootStem_ne_stem kind kind' ordinal')
  | task kind ordinal =>
    cases q with
    | root kind' => exact absurd h.symm (rootStem_ne_stem kind' kind ordinal)
    | task kind' ordinal' =>
      obtain ⟨rfl, rfl⟩ := stem_task_inj h
      rfl

theorem id_inj {p q : Place} {component component' : String} :
    p.id component = q.id component' ↔ p = q ∧ component = component' := by
  rw [id, id, Identifier.compose_inj p.separator_notMem_stem q.separator_notMem_stem,
    stem_injective.eq_iff]

/-- What is made of the place's identifier: that of a root is resolved alone, that of a task with its
directory. -/
def resolve (source : SourcePosition) (component : String) : Place → Resolved String
  | root kind => rootId source kind component
  | task kind ordinal => directory source component kind ordinal

theorem value_resolve (p : Place) (source : SourcePosition) (component : String) :
    (p.resolve source component).value = p.id component := by
  cases p <;> rfl

end Place

/-- Identifiers of directories are told apart even where they are rejected, for a rejected one is returned
whole: one identifier means one place in one component. It is the first separator that does it, so that
stems may be any texts without one. -/
theorem directoryId_value_eq_iff :
    (∀ (source source' : SourcePosition) (p q : Place) (component component' : String),
      (p.resolve source component).value = (q.resolve source' component').value ↔
        p = q ∧ component = component') ∧
    ∀ (source source' : SourcePosition) (stem stem' owner owner' : String),
      '_' ∉ stem.toList → '_' ∉ stem'.toList →
        ((directoryId source stem owner).value = (directoryId source' stem' owner').value ↔
          stem = stem' ∧ owner = owner') := by
  constructor
  · intro source source' p q component component'
    rw [p.value_resolve, q.value_resolve]
    exact Place.id_inj
  · intro source source' stem stem' owner owner' h h'
    exact Identifier.compose_inj h h'

/-- Components that go on where a stem could. -/
theorem directoryId_value_of_odd_components :
    ('_' ∉ "WixPlayTask1".toList ∧ '_' ∉ "WixPlayTask".toList ∧
      (directoryId {} "WixPlayTask1" "1-C").value ≠ (directoryId {} "WixPlayTask" "1_1-C").value) ∧
    (Place.resolve {} "1_C" (.task .play 1)).value ≠ (Place.resolve {} "C" (.task .play 11)).value := by
  refine ⟨⟨by decide, by decide, fun h => ?_⟩, fun h => ?_⟩
  · have hstem := ((directoryId_value_eq_iff.2 {} {} "WixPlayTask1" "WixPlayTask" "1-C" "1_1-C"
      (by decide) (by decide)).1 h).1
    exact absurd hstem (by decide)
  · have hplace := ((directoryId_value_eq_iff.1 {} {} _ _ _ _).1 h).1
    exact absurd hplace (by decide)

/-- With a separator in a stem nothing tells where the owner begins. -/
example : Identifier.compose "Wix_Play" "C" = Identifier.compose "Wix" "Play_C" := by decide

end Task

def NumberedTask.place (t : NumberedTask) : Task.Place := .task t.kind t.ordinal

namespace Game

def rootPlaces (game : Element) : List Task.Place :=
  if Taskless game.children then [] else [.root .play, .root .support]

def taskPlaces (game : Element) : List Task.Place := (tasks game).map NumberedTask.place

def places (game : Element) : List Task.Place := rootPlaces game ++ taskPlaces game

variable {before rest : List Element}

theorem tasksAfter_eq_nil (h : Taskless rest) : tasksAfter before rest = [] := by
  induction rest generalizing before with
  | nil => rfl
  | cons c rest ih =>
    obtain ⟨hc, hrest⟩ := taskless_append_iff (a := [c]).1 h
    have hrole := taskless_singleton_iff.1 hc
    rw [tasksAfter]
    cases hchild : childRole c with
    | task kind => exact absurd hchild (hrole kind)
    | _ => exact ih hrest

theorem toNat_ordinal {kind : TaskKind} (hfit : taskCount kind (before ++ rest) < UInt32.size) :
    (UInt32.ofNat (taskCount kind before)).toNat = taskCount kind before := by
  rw [Progress.taskCount_append] at hfit
  exact UInt32.toNat_ofNat_of_lt' (by omega)

/-- Ordinals that fit go up: a task has at least that of the first one of its kind. -/
theorem le_ordinal_of_mem_tasksAfter (hfit : ∀ kind, taskCount kind (before ++ rest) < UInt32.size)
    {t : NumberedTask} (ht : t ∈ tasksAfter before rest) :
    taskCount t.kind before ≤ t.ordinal.toNat := by
  induction rest generalizing before with
  | nil => cases ht
  | cons c rest ih =>
    have hlater : t ∈ tasksAfter (before ++ [c]) rest → taskCount t.kind before ≤ t.ordinal.toNat := by
      intro ht
      have hle := ih (fun kind => by simpa using hfit kind) ht
      rw [Progress.taskCount_append] at hle
      omega
    rw [tasksAfter] at ht
    cases hrole : childRole c with
    | task kind =>
      rw [hrole] at ht
      obtain rfl | ht := List.mem_cons.1 ht
      · exact Nat.le_of_eq (toNat_ordinal (hfit kind)).symm
      · exact hlater ht
    | _ =>
      rw [hrole] at ht
      exact hlater ht

theorem nodup_places_tasksAfter (hfit : ∀ kind, taskCount kind (before ++ rest) < UInt32.size) :
    ((tasksAfter before rest).map NumberedTask.place).Nodup := by
  induction rest generalizing before with
  | nil => exact List.nodup_nil
  | cons c rest ih =>
    have hfit' : ∀ kind, taskCount kind ((before ++ [c]) ++ rest) < UInt32.size :=
      fun kind => by simpa using hfit kind
    rw [tasksAfter]
    cases hrole : childRole c with
    | task kind =>
      rw [List.map_cons, List.nodup_cons]
      refine ⟨?_, ih hfit'⟩
      intro hmem
      obtain ⟨t, ht, hplace⟩ := List.mem_map.1 hmem
      obtain ⟨hkind, hordinal⟩ :
          t.kind = kind ∧ t.ordinal = .ofNat (taskCount kind before) := Task.Place.task.inj hplace
      -- the ordinals behind this task count it
      have hle := le_ordinal_of_mem_tasksAfter hfit' ht
      rw [hkind, hordinal, toNat_ordinal (hfit kind), Progress.taskCount_append,
        taskCount_cons_of_eq [] hrole] at hle
      omega
    | _ => exact ih hfit'

theorem nodup_taskPlaces {game : Element} (hfit : ∀ kind, taskCount kind game.children < UInt32.size) :
    (taskPlaces game).Nodup :=
  nodup_places_tasksAfter hfit

theorem nodup_rootPlaces (game : Element) : (rootPlaces game).Nodup := by
  unfold rootPlaces
  split <;> decide

theorem nodup_places {game : Element} (hfit : ∀ kind, taskCount kind game.children < UInt32.size) :
    (places game).Nodup := by
  refine List.nodup_append.2 ⟨nodup_rootPlaces game, nodup_taskPlaces hfit, ?_⟩
  rintro root hroot _ htask rfl
  obtain ⟨t, -, rfl⟩ := List.mem_map.1 htask
  unfold rootPlaces at hroot
  split at hroot <;> simp [NumberedTask.place] at hroot

theorem places_eq_nil {game : Element} (h : Taskless game.children) : places game = [] := by
  rw [places, rootPlaces, if_pos h, taskPlaces, tasks, tasksAfter_eq_nil h]
  rfl

end Game

end GameRegistration
