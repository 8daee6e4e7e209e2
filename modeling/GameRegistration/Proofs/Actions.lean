import GameRegistration.Proofs.Journal

/-! The actions that a part of a plan may ask for. What is to be shown of all actions of a part is
shown of these. -/
namespace GameRegistration

variable {source : SourcePosition} {a : Action}

namespace AttributeValue
variable {element : String} {attr : Attribute}

theorem eq_of_mem_text (h : a ∈ (text source element attr).actions) :
    a = .error source (.emptyAttribute element attr.localName) := by
  unfold text at h
  split at h
  · exact List.mem_singleton.1 h
  · cases h

theorem cases_of_mem_guid (h : a ∈ (guid source element attr).actions) :
    a = .error source (.emptyAttribute element attr.localName) ∨
      a = .error source (.illegalGuid element attr.localName attr.value) := by
  unfold guid at h
  split at h
  · exact .inl (eq_of_mem_text h)
  · split at h
    · cases h
    · exact .inr (List.mem_singleton.1 h)

/-- A long identifier is the only thing that is warned of. -/
theorem cases_of_mem_identifier (h : a ∈ (identifier source element attr).actions) :
    a = .error source (.emptyAttribute element attr.localName) ∨
      a = .error source (.illegalIdentifier element attr.localName attr.value) ∨
      a = .warning source (.identifierTooLong element attr.localName attr.value) := by
  unfold identifier at h
  split at h
  · exact .inl (eq_of_mem_text h)
  · dsimp only at h
    split at h
    · exact .inr (.inl (List.mem_singleton.1 h))
    · split at h
      · exact .inr (.inr (List.mem_singleton.1 h))
      · cases h

theorem cases_of_mem_yesNo (h : a ∈ (yesNo source element attr).actions) :
    a = .error source (.emptyAttribute element attr.localName) ∨
      a = .error source (.illegalYesNo element attr.localName attr.value) := by
  unfold yesNo at h
  split at h
  · cases h
  · split at h
    · cases h
    · split at h
      · exact .inl (eq_of_mem_text h)
      · exact .inr (List.mem_singleton.1 h)

end AttributeValue

theorem Context.eq_of_mem_require {c : Context} {key element : String}
    (h : a ∈ (c.require key element source).actions) :
    a = .error source (.missingContext element key) := by
  unfold require at h
  dsimp only at h
  split at h
  · exact List.mem_singleton.1 h
  · cases h

theorem FileContext.exists_of_mem_resolve {c : Context} {element : String}
    (h : a ∈ (resolve c element source).actions) :
    ∃ key, a = .error source (.missingContext element key) := by
  obtain h | hdirectory := List.mem_append.1 h
  · obtain hfile | hcomponent := List.mem_append.1 h
    · exact ⟨_, Context.eq_of_mem_require hfile⟩
    · exact ⟨_, Context.eq_of_mem_require hcomponent⟩
  · exact ⟨_, Context.eq_of_mem_require hdirectory⟩

/-- The action tells that the identifier of a directory is rejected. -/
def Action.IsRejection (source : SourcePosition) (a : Action) : Prop :=
  ∃ id violation, a = .error source (.illegalTaskDirectory id violation)

namespace Task
variable {component : String}

theorem isRejection_of_mem_directoryId {stem : String}
    (h : a ∈ (directoryId source stem component).actions) : a.IsRejection source := by
  unfold directoryId at h
  dsimp only at h
  split at h
  · exact ⟨_, _, List.mem_singleton.1 h⟩
  · cases h

theorem cases_of_mem_directory {kind : TaskKind} {ordinal : UInt32}
    (h : a ∈ (directory source component kind ordinal).actions) :
    a.IsRejection source ∨
      a = .emit (.directory
        { source, id := Identifier.compose (stem kind ordinal) component
          parentRef := Identifier.compose kind.rootStem component, name := toString ordinal }) := by
  obtain h | hdirectory := List.mem_append.1 h
  · exact .inl ((List.mem_append.1 h).elim isRejection_of_mem_directoryId
      isRejection_of_mem_directoryId)
  · exact .inr (List.mem_singleton.1 hdirectory)

theorem cases_of_mem_ensure {r : TaskRoots} {game : String}
    (h : a ∈ (r.ensure source game component).actions) :
    a.IsRejection source ∨
      ∃ record ∈ rootRecords source game (rootId source .play component).value
        (rootId source .support component).value, a = .emit record := by
  cases r with
  | rootsEmitted => cases h
  | noTasksSeen =>
    obtain h | hrecord := List.mem_append.1 h
    · exact .inl ((List.mem_append.1 h).elim isRejection_of_mem_directoryId
        isRejection_of_mem_directoryId)
    · obtain ⟨record, hmem, rfl⟩ := List.mem_map.1 hrecord
      exact .inr ⟨record, hmem, rfl⟩

end Task

namespace TaskElement
variable {kind : TaskKind} {task : Element}

theorem mem_missing_iff :
    a ∈ missing kind task ↔
      a = .missingAttribute task "Name" ∧ nameOf kind task = none ∨
      a = .missingAttribute task kind.detailName ∧ kind = .support ∧ detailOf kind task = none := by
  cases kind <;> simp [missing, and_comm]

/-- In front of its gate a task hands foreign nodes on, and what is wrong with it is an error; no
identifier is composed there. -/
theorem cases_of_mem_checks (h : a ∈ checks kind task) :
    (∃ node, a = .hand node) ∨
      ∃ source problem, a = .error source problem ∧ problem.number? = none := by
  simp only [checks, List.mem_append, List.mem_flatMap, List.mem_map] at h
  obtain (⟨attr, -, hattribute⟩ | ⟨child, -, rfl⟩) | hmissing := h
  · unfold attributeActions at hattribute
    split at hattribute
    · exact .inl ⟨_, List.mem_singleton.1 hattribute⟩
    · exact .inr ⟨_, _, AttributeValue.eq_of_mem_text hattribute, rfl⟩
    · exact .inr ⟨_, _, AttributeValue.eq_of_mem_text hattribute, rfl⟩
    · exact .inr ⟨_, _, List.mem_singleton.1 hattribute, rfl⟩
  · unfold childAction
    split
    · exact .inr ⟨_, _, rfl, rfl⟩
    · exact .inl ⟨_, rfl⟩
  · obtain ⟨rfl, -⟩ | ⟨rfl, -⟩ := mem_missing_iff.1 hmissing
    · exact .inr ⟨_, _, rfl, rfl⟩
    · exact .inr ⟨_, _, rfl, rfl⟩

theorem cases_of_mem_emission {file : FileContext} {executable : String} {ordinal : UInt32}
    (h : a ∈ emission kind task file executable ordinal) :
    a ∈ (Task.directory task.source file.componentId kind ordinal).actions ∨
      (∃ directory name, a = .emit (.shortcut (playShortcut task file executable directory name))) ∨
      ∃ directory name address, a = .requestLink (supportLink task file directory name address) := by
  unfold emission at h
  split at h
  · exact (List.mem_append.1 h).imp_right fun hshortcut => .inl ⟨_, _, List.mem_singleton.1 hshortcut⟩
  · exact (List.mem_append.1 h).imp_right fun hlink => .inr ⟨_, _, _, List.mem_singleton.1 hlink⟩
  · cases h

end TaskElement

namespace Game
variable {game : Element} {file : FileContext}

theorem cases_of_mem_attributes (h : a ∈ game.attributes.flatMap (attributeActions game)) :
    (∃ node, a = .hand node) ∨
      (∃ problem, a = .error game.source problem ∧ problem.number? = none) ∨
      ∃ attr : Attribute,
        a = .warning game.source (.identifierTooLong game.localName attr.localName attr.value) := by
  obtain ⟨attr, -, hattribute⟩ := List.mem_flatMap.1 h
  have hidentifier (ha : a ∈ (AttributeValue.identifier game.source game.localName attr).actions) :
      (∃ problem, a = .error game.source problem ∧ problem.number? = none) ∨
        ∃ attr : Attribute,
          a = .warning game.source (.identifierTooLong game.localName attr.localName attr.value) := by
    obtain rfl | rfl | rfl := AttributeValue.cases_of_mem_identifier ha
    · exact .inl ⟨_, rfl, rfl⟩
    · exact .inl ⟨_, rfl, rfl⟩
    · exact .inr ⟨attr, rfl⟩
  unfold attributeActions at hattribute
  split at hattribute
  · exact .inl ⟨_, List.mem_singleton.1 hattribute⟩
  · obtain rfl | rfl := AttributeValue.cases_of_mem_guid hattribute
    · exact .inr (.inl ⟨_, rfl, rfl⟩)
    · exact .inr (.inl ⟨_, rfl, rfl⟩)
  · exact .inr (hidentifier hattribute)
  · exact .inr (hidentifier hattribute)
  · exact .inr (.inl ⟨_, List.mem_singleton.1 hattribute, rfl⟩)

theorem eq_of_mem_missingId (h : a ∈ missingId game) : a = .missingAttribute game "Id" := by
  unfold missingId at h
  split at h
  · exact List.mem_singleton.1 h
  · cases h

theorem exists_of_mem_fileReferences (h : a ∈ fileReferences game file) :
    ∃ key, a = reference game.source "File" key := by
  obtain ⟨key, -, rfl⟩ := List.mem_map.1 h
  exact ⟨key, rfl⟩

theorem cases_of_mem_registration (h : a ∈ registration game file) :
    (∃ id, a = .emit (.game
      { source := game.source, instanceId := id, fileRef := definitionFile game file })) ∨
      a = reference game.source "CustomAction" scheduleAction := by
  unfold registration at h
  split at h
  · cases h
  · obtain hgame | hreference := List.mem_cons.1 h
    · exact .inl ⟨_, hgame⟩
    · exact .inr (List.mem_singleton.1 hreference)

end Game

namespace Job
variable {context : Context} {parent : Element} {attr : Attribute}

theorem cases_of_mem_registerPlan (h : a ∈ (registerPlan context parent).actions) :
    (∃ problem, a = .error parent.source problem) ∨ ∃ value, a = .emit (.registry value) := by
  unfold registerPlan at h
  split at h
  · exact .inl ⟨_, List.mem_singleton.1 h⟩
  · simp only [Plan.actions, List.flatMap_singleton, Step.actions, List.nil_append] at h
    obtain ⟨value, -, rfl⟩ := List.mem_map.1 h
    exact .inr ⟨value, rfl⟩

theorem cases_of_mem_attributePlan (h : a ∈ (attributePlan context parent attr).actions) :
    (∃ problem, a = .error parent.source problem) ∨ ∃ value, a = .emit (.registry value) := by
  unfold attributePlan at h
  split at h
  · split at h
    · exact .inl ⟨_, List.mem_singleton.1 h⟩
    · unfold extensionPlan at h
      split at h
      · dsimp only at h
        rw [Plan.actions_append, Plan.actions_ofActions, List.mem_append] at h
        obtain hflag | hregister := h
        · exact .inl ((AttributeValue.cases_of_mem_yesNo hflag).elim (⟨_, ·⟩) (⟨_, ·⟩))
        · split at hregister
          · exact cases_of_mem_registerPlan hregister
          · cases hregister
      · exact .inl ⟨_, List.mem_singleton.1 h⟩
  · exact .inl ⟨_, List.mem_singleton.1 h⟩

end Job

end GameRegistration
