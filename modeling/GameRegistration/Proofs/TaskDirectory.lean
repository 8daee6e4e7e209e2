import Mathlib.Logic.Basic
import GameRegistration.Task
import GameRegistration.Proofs.Identifiers
import GameRegistration.Proofs.Plan

/-! Identifiers of task directories. Within the limits on tasks the stem of a task is no longer than
the longest stem of a root, so that legal roots have legal task directories. -/
namespace GameRegistration

/-- Up to so many tasks of a kind have ordinals that fit. -/
def TaskKind.maxTasks : TaskKind → Nat
  | .play => 100000000
  | .support => 100000

namespace TaskKind

theorem length_rootStem : play.rootStem.length = 16 ∧ support.rootStem.length = 19 := by decide

theorem rootStem_append :
    play.rootStem ++ "_" = "WixPlayTasksRoot_" ∧ support.rootStem ++ "_" = "WixSupportTasksRoot_" := by
  decide

end TaskKind

namespace Task

theorem isLegal_rootStem (kind : TaskKind) : Identifier.isLegal kind.rootStem = true := by
  cases kind <;> decide

theorem isPart_of_isDigit {c : Char} (h : c.isDigit = true) : Identifier.isPart c = true := by
  simp [Identifier.isPart, Char.isAlphanum, h]

theorem isDigit_of_mem_ordinal {ordinal : UInt32} {c : Char} (h : c ∈ (toString ordinal).toList) :
    c.isDigit = true := by
  change c ∈ ordinal.toNat.repr.toList at h
  rw [Nat.toList_repr] at h
  exact Nat.isDigit_of_mem_toDigits (by omega) (by omega) h

theorem isLegal_stem (kind : TaskKind) (ordinal : UInt32) :
    Identifier.isLegal (stem kind ordinal) = true := by
  have hstem : Identifier.isLegalChars kind.taskStem.toList = true := by
    cases kind <;> decide
  have hne : kind.taskStem.toList ≠ [] := by
    cases kind <;> decide
  have hdigits : (toString ordinal).toList.all Identifier.isPart = true := by
    rw [List.all_eq_true]
    exact fun c hc => isPart_of_isDigit (isDigit_of_mem_ordinal hc)
  rw [Identifier.isLegal, stem, String.toList_append, Identifier.isLegalChars_append _ hne, hstem,
    hdigits]
  rfl

theorem length_stem (kind : TaskKind) (ordinal : UInt32) :
    (stem kind ordinal).length = kind.taskStem.length + ordinal.toNat.repr.length := by
  rw [stem, String.length_append]
  rfl

/-- Neither root of a component has its identifier rejected. -/
def RootsAccepted (component : String) : Prop :=
  ∀ kind : TaskKind, Identifier.violation? (Identifier.compose kind.rootStem component) = none

theorem rootsAccepted_iff {component : String} :
    RootsAccepted component ↔
      component.length ≤ 52 ∧ component.toList.all Identifier.isPart = true := by
  obtain ⟨hplay, hsupport⟩ := TaskKind.length_rootStem
  have hmax : Identifier.maxLength = 72 := rfl
  constructor
  · intro h
    have hroot := h .support
    rw [Identifier.violation?_compose_eq_none_iff (isLegal_rootStem .support)] at hroot
    exact ⟨by omega, hroot.2⟩
  · rintro ⟨hlength, hparts⟩ kind
    rw [Identifier.violation?_compose_eq_none_iff (isLegal_rootStem kind)]
    cases kind with
    | play => exact ⟨by omega, hparts⟩
    | support => exact ⟨by omega, hparts⟩

theorem RootsAccepted.violation?_task {component : String} (h : RootsAccepted component)
    (kind : TaskKind) {ordinal : UInt32} (hlimit : ordinal.toNat < kind.maxTasks) :
    Identifier.violation? (Identifier.compose (stem kind ordinal) component) = none := by
  obtain ⟨hlength, hparts⟩ := rootsAccepted_iff.1 h
  rw [Identifier.violation?_compose_eq_none_iff (isLegal_stem kind ordinal)]
  refine ⟨?_, hparts⟩
  have hmax : Identifier.maxLength = 72 := rfl
  cases kind with
  | play =>
    have hdigits : ordinal.toNat.repr.length ≤ 8 := (Nat.length_repr_le_iff (by omega)).2 hlimit
    have htask : TaskKind.play.taskStem.length = 11 := by decide
    rw [length_stem]
    omega
  | support =>
    have hdigits : ordinal.toNat.repr.length ≤ 5 := (Nat.length_repr_le_iff (by omega)).2 hlimit
    have htask : TaskKind.support.taskStem.length = 14 := by decide
    rw [length_stem]
    omega

theorem rootId_ne_targetDirectory (kind : TaskKind) (component : String) :
    Identifier.compose kind.rootStem component ≠ targetDirectory := by
  intro h
  have hchars := congrArg String.toList h
  cases kind <;> simp [Identifier.compose, targetDirectory, TaskKind.rootStem] at hchars

theorem RootsAccepted.directory_actions {component : String} (h : RootsAccepted component)
    (source : SourcePosition) (kind : TaskKind) {ordinal : UInt32}
    (hlimit : ordinal.toNat < kind.maxTasks) :
    (directory source component kind ordinal).actions =
      [.emit (.directory
        { source
          id := Identifier.compose (stem kind ordinal) component
          parentRef := Identifier.compose kind.rootStem component
          name := toString ordinal })] := by
  simp [directory, rootId, directoryId, h kind, h.violation?_task kind hlimit]

theorem failed_roots_or_accepted (setup : Setup) (source : SourcePosition)
    (game component : String) :
    (performAll setup (roots source game component)).failed = true ∨ RootsAccepted component := by
  rw [or_iff_not_imp_right]
  intro hrejected
  obtain ⟨kind, hkind⟩ := not_forall.1 hrejected
  obtain ⟨violation, hviolation⟩ := Option.ne_none_iff_exists'.1 hkind
  have hmem : Action.error source (.illegalTaskDirectory
      (Identifier.compose kind.rootStem component) violation) ∈ roots source game component := by
    cases kind <;> simp [roots, rootId, directoryId, hviolation]
  rw [failed_performAll, List.any_eq_true]
  exact ⟨_, hmem, rfl⟩

end Task

end GameRegistration
