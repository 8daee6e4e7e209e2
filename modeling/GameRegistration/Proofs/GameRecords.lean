import GameRegistration.Proofs.GatedRecords
import GameRegistration.Proofs.Translation

/-! Games are compiled to what their translation says: the walk over the children, with the roots
and the ordinals it carries along, comes to a list over the document. -/
namespace GameRegistration

theorem AttributeValue.guid_of_clean {setup : Setup} {source : SourcePosition} {element : String}
    {a : Attribute} (h : (performAll setup (guid source element a).actions).failed = false) :
    ∃ g, Guid.parse? a.value = some g ∧ (guid source element a).value = g.text := by
  unfold guid at h ⊢
  by_cases hempty : a.value = ""
  · rw [if_pos hempty, text, if_pos hempty] at h
    cases h
  · rw [if_neg hempty] at h ⊢
    cases hparse : Guid.parse? a.value with
    | none =>
      rw [hparse] at h
      cases h
    | some g => exact ⟨g, rfl, rfl⟩

/-- A GUID in its one written form; a text that is none, as it stands. -/
def Guid.normalized (text : String) : String := (parse? text).elim text Guid.text

theorem AttributeValue.value_guid (source : SourcePosition) (element : String) (a : Attribute) :
    (guid source element a).value = Guid.normalized a.value := by
  unfold guid Guid.normalized
  by_cases hempty : a.value = ""
  · have hparse : Guid.parse? "" = none := by decide
    rw [if_pos hempty, text, hempty, hparse, Option.elim_none]
  · rw [if_neg hempty]
    cases Guid.parse? a.value <;> rfl

theorem mapIdx_take_cons {α β : Type} (f : List α → α → β) (before : List α) (x : α)
    (rest : List α) :
    ((x :: rest).mapIdx fun i y => f ((before ++ x :: rest).take (before.length + i)) y) =
      f before x :: rest.mapIdx fun i y =>
        f (((before ++ [x]) ++ rest).take ((before ++ [x]).length + i)) y := by
  rw [List.mapIdx_cons, Nat.add_zero, List.take_left]
  congr 2
  funext i y
  rw [List.append_assoc, List.singleton_append, List.length_append, List.length_singleton,
    Nat.add_assoc, Nat.add_comm 1 i]

namespace Game
variable {setup : Setup}

theorem role_eq_iff {a : Attribute} :
    (role a = .id ↔ a.isOwn = true ∧ a.localName = "Id") ∧
    (role a = .definition ↔ a.isOwn = true ∧ a.localName = "GdfResourceFile") ∧
    (role a = .executable ↔ a.isOwn = true ∧ a.localName = "ExecutableFile") := by
  unfold role
  cases a.isOwn with
  | false => simp
  | true =>
    by_cases hid : a.localName = "Id"
    · simp [hid]
    · by_cases hdefinition : a.localName = "GdfResourceFile"
      · simp [hdefinition]
      · by_cases hexecutable : a.localName = "ExecutableFile" <;>
          simp [hid, hdefinition, hexecutable]

theorem definitionFile_eq (game : Element) (file : FileContext) :
    definitionFile game file = Translation.definition file game := by
  rw [definitionFile, Translation.definition, attributeOf, Element.ownValue?_eq (fun a => ?_) game]
  rw [beq_iff_eq]
  exact role_eq_iff.2.1

theorem executableFile_eq (game : Element) (file : FileContext) :
    executableFile game file = Translation.executable file game := by
  rw [executableFile, Translation.executable, attributeOf, Element.ownValue?_eq (fun a => ?_) game]
  rw [beq_iff_eq]
  exact role_eq_iff.2.2

theorem ownValue?_id (game : Element) :
    game.ownValue? "Id" = (attributeOf game .id).map (·.value) := by
  refine Element.ownValue?_eq (fun a => ?_) game
  rw [beq_iff_eq]
  exact role_eq_iff.1

theorem instanceId_eq (game : Element) :
    instanceId game = (game.ownValue? "Id").map Guid.normalized := by
  rw [instanceId, ownValue?_id, Option.map_map]
  exact Option.map_congr fun a _ => AttributeValue.value_guid game.source game.localName a

theorem guid_of_clean (setup : Setup) {game : Element}
    (hread : ∀ attr ∈ game.attributes,
      (performAll setup (attributeActions game attr)).failed = false)
    (hmissing : (performAll setup (missingId game)).failed = false) :
    ∃ guid, (game.ownValue? "Id").bind Guid.parse? = some guid ∧
      instanceId game = some guid.text := by
  cases hattr : attributeOf game .id with
  | none =>
    rw [missingId, instanceId, hattr] at hmissing
    cases hmissing
  | some a =>
    have hrole : role a = .id := beq_iff_eq.1 (List.find?_some (p := (role · == Role.id)) hattr)
    have hclean := hread a (List.mem_reverse.1 (List.mem_of_find?_eq_some hattr))
    rw [attributeActions, hrole] at hclean
    obtain ⟨g, hparse, htext⟩ := AttributeValue.guid_of_clean hclean
    refine ⟨g, ?_, ?_⟩
    · rw [ownValue?_id, hattr]
      exact hparse
    · rw [instanceId, hattr, Option.map_some, htext]

/-- Where the walk over the children stands behind those in `before`. -/
structure Progress (before : List Element) (roots : TaskRoots) (ordinals : Ordinals) : Prop where
  roots_eq : roots =
    if taskCount .play before = 0 ∧ taskCount .support before = 0 then .noTasksSeen
    else .rootsEmitted
  ordinal_eq (kind : TaskKind) : ordinals.get kind = .ofNat (taskCount kind before)

namespace Progress
variable {before : List Element} {roots : TaskRoots} {ordinals : Ordinals} {c : Element}

theorem initial : Progress [] .noTasksSeen {} where
  roots_eq := rfl
  ordinal_eq kind := by cases kind <;> rfl

theorem taskCount_append (kind : TaskKind) (a b : List Element) :
    taskCount kind (a ++ b) = taskCount kind a + taskCount kind b := List.countP_append

theorem skip (h : Progress before roots ordinals) (hrole : ∀ kind, childRole c ≠ .task kind) :
    Progress (before ++ [c]) roots ordinals := by
  have hcount (kind : TaskKind) : taskCount kind (before ++ [c]) = taskCount kind before := by
    rw [taskCount_append, taskCount_cons_of_ne [] (hrole kind)]
    rfl
  constructor
  · rw [hcount, hcount]
    exact h.roots_eq
  · intro kind
    rw [hcount]
    exact h.ordinal_eq kind

theorem advance {kind : TaskKind} (h : Progress before roots ordinals)
    (hrole : childRole c = .task kind) :
    Progress (before ++ [c]) .rootsEmitted (ordinals.advance kind) := by
  have hself : taskCount kind (before ++ [c]) = taskCount kind before + 1 := by
    rw [taskCount_append, taskCount_cons_of_eq [] hrole]
    rfl
  constructor
  · rw [if_neg]
    rintro ⟨hplay, hsupport⟩
    cases kind <;> omega
  · intro other
    by_cases hne : other = kind
    · rw [hne, ordinals.get_advance_self, h.ordinal_eq kind, hself, UInt32.ofNat_add]
      rfl
    · have hother : childRole c ≠ .task other := by
        rw [hrole]
        exact fun he => hne (by cases he; rfl)
      rw [ordinals.get_advance_of_ne hne, h.ordinal_eq other, taskCount_append,
        taskCount_cons_of_ne [] hother]
      rfl

end Progress

theorem roots_eq (source : SourcePosition) (guid component : String) :
    Translation.roots source guid component =
      Task.rootRecords source guid (Identifier.compose TaskKind.play.rootStem component)
        (Identifier.compose TaskKind.support.rootStem component) := by
  rw [Translation.roots, ← TaskKind.rootStem_append.1, ← TaskKind.rootStem_append.2]
  rfl

theorem yields_ensure {before : List Element} {roots : TaskRoots} {ordinals : Ordinals}
    (h : Progress before roots ordinals) (source : SourcePosition) (guid component : String) :
    Yields setup (roots.ensure source guid component).actions
      (if taskCount .play before = 0 ∧ taskCount .support before = 0 then
        Translation.roots source guid component else []) := by
  rw [h.roots_eq]
  by_cases hfirst : taskCount .play before = 0 ∧ taskCount .support before = 0
  · rw [if_pos hfirst, if_pos hfirst, roots_eq]
    exact (Task.yields_directoryIds source TaskKind.play.rootStem
      TaskKind.support.rootStem component).append (Yields.emit _)
  · rw [if_neg hfirst, if_neg hfirst]
    exact Yields.nil

theorem yields_childrenPlan (game : Element) (file : FileContext) {guid : String}
    (hguid : instanceId game = some guid) {before : List Element} {roots : TaskRoots}
    {ordinals : Ordinals} (h : Progress before roots ordinals) (rest : List Element) :
    Yields setup (childrenPlan game file roots ordinals rest).opened
      (rest.mapIdx fun i c => Translation.child setup.foreign file guid game
        ((before ++ rest).take (before.length + i)) c).flatten := by
  -- `before` grows with the walk; what the walk carries is read off it by `Progress`.
  induction rest generalizing before roots ordinals with
  | nil => exact Yields.nil
  | cons c rest ih =>
    rw [mapIdx_take_cons (Translation.child setup.foreign file guid game), List.flatten_cons,
      childrenPlan, Translation.child]
    cases hrole : childRole c with
    | foreign =>
      rw [Plan.opened_act, ← List.singleton_append]
      refine (Yields.hand _).append (ih (h.skip fun kind => ?_))
      rw [hrole]
      exact ChildRole.noConfusion
    | unexpected =>
      rw [Plan.opened_act, ← List.singleton_append]
      refine (Yields.of_isReport ?_).append (ih (h.skip fun kind => ?_))
      · rw [List.forall_mem_singleton]
        rfl
      · rw [hrole]
        exact ChildRole.noConfusion
    | task kind =>
      dsimp only
      rw [Plan.opened_append, Plan.opened_append, Plan.opened_ofActions, hguid, Option.getD_some,
        roots.value_ensure, executableFile_eq, h.ordinal_eq kind]
      have hensure : Yields setup _ _ := yields_ensure h game.source guid file.componentId
      have htask := hensure.append (TaskElement.yields_plan kind c file
        (Translation.executable file game) (.ofNat (taskCount kind before)))
      rw [← List.append_assoc] at htask
      exact htask.append (ih (h.advance hrole))

theorem missing_subset_childrenPlan {game task : Element} {file : FileContext} {kind : TaskKind}
    {children : List Element} (hmem : task ∈ children) (hrole : childRole task = .task kind)
    (roots : TaskRoots) (ordinals : Ordinals) :
    TaskElement.missing kind task ⊆ (childrenPlan game file roots ordinals children).opened := by
  induction children generalizing roots ordinals with
  | nil => cases hmem
  | cons c rest ih =>
    intro a ha
    rw [childrenPlan]
    obtain rfl | hrest := List.mem_cons.1 hmem
    · rw [hrole]
      dsimp only
      rw [Plan.opened_append, Plan.opened_append, TaskElement.opened_plan, TaskElement.checks]
      simp [ha]
    · cases childRole c with
      | foreign => exact List.mem_cons_of_mem _ (ih hrest _ _ ha)
      | unexpected => exact List.mem_cons_of_mem _ (ih hrest _ _ ha)
      | task other =>
        dsimp only
        rw [Plan.opened_append]
        exact List.mem_append_right _ (ih hrest _ _ ha)

theorem opened_plan (game : Element) (file : FileContext) :
    (plan game file).opened =
      game.attributes.flatMap (attributeActions game) ++
        (childrenPlan game file .noTasksSeen {} game.children).opened ++
        (missingId game ++ fileReferences game file) ++ registration game file := by
  simp only [plan, Plan.opened_append, Plan.opened_ofActions, Plan.opened_gate, Plan.opened_nil,
    List.append_nil]

theorem yields_fileReferences (game : Element) (file : FileContext) :
    Yields setup (fileReferences game file)
      (([Translation.definition file game, Translation.executable file game].filter
        (· != file.fileId)).map (Translation.reference game "File")) := by
  rw [fileReferences, definitionFile_eq, executableFile_eq]
  have hemit : Yields setup _ _ := Yields.emit
    (([Translation.definition file game, Translation.executable file game].filter
      (· != file.fileId)).map (Translation.reference game "File"))
  rw [List.map_map] at hemit
  exact hemit

theorem yields_registration {game : Element} (file : FileContext) {guid : String}
    (hguid : instanceId game = some guid) :
    Yields setup (registration game file)
      [.game
        { source := game.source, instanceId := guid, fileRef := Translation.definition file game },
       Translation.reference game "CustomAction" "WixSchedGameExplorer"] := by
  rw [registration, hguid, definitionFile_eq]
  exact Yields.emit [_, _]

theorem yields_plan {game : Element} (file : FileContext) {guid : String}
    (hguid : instanceId game = some guid) :
    Yields setup (plan game file).opened (Translation.game setup.foreign file guid game) := by
  have hchildren : Yields setup _ _ :=
    yields_childrenPlan game file hguid .initial game.children
  have hends : Yields setup _ _ :=
    (Yields.of_isReport (isReport_missingId game)).append (yields_fileReferences game file)
  rw [opened_plan]
  simp only [List.nil_append, List.length_nil, Nat.zero_add] at hchildren hends
  exact (((yields_attributes game).append hchildren).append hends).append
    (yields_registration file hguid)

end Game

theorem Job.elementPlan_of_context {context : Context} {parent game : Element} {file : FileContext}
    (hparent : parent.localName = "File") (hgame : game.localName = "Game")
    (hfile : context.get? Context.fileId = some file.fileId)
    (hcomponent : context.get? Context.componentId = some file.componentId)
    (hdirectory : context.get? Context.directoryId = some file.directoryId) :
    elementPlan context parent game = Game.plan game file := by
  have hresolve :
      FileContext.resolve context game.localName game.source = { value := some file } := by
    simp [FileContext.resolve, Context.require, hfile, hcomponent, hdirectory]
  rw [elementPlan, if_pos ⟨hparent, hgame⟩, hresolve]
  rfl

theorem Game.required_of_clean {setup : Setup} {game : Element} {file : FileContext}
    (hclean : (performAll setup (plan game file).opened).failed = false) :
    (∃ guid : Guid, (game.ownValue? "Id").bind Guid.parse? = some guid ∧
      instanceId game = some guid.text) ∧
    ∀ task ∈ game.children, ∀ kind, childRole task = .task kind →
      (∃ name, task.ownValue? "Name" = some name) ∧
      (kind = .support → ∃ address, task.ownValue? "Address" = some address) := by
  rw [performAll_clean_iff, opened_plan] at hclean
  constructor
  · apply guid_of_clean setup
    · intro attr hattr
      rw [performAll_clean_iff]
      refine fun a ha => hclean a ?_
      simp only [List.mem_append]
      exact .inl (.inl (.inl (List.mem_flatMap.2 ⟨attr, hattr, ha⟩)))
    · rw [performAll_clean_iff]
      refine fun a ha => hclean a ?_
      simp only [List.mem_append]
      exact .inl (.inr (.inl ha))
  · intro task htask kind hrole
    have hmissing : TaskElement.missing kind task = [] := by
      refine TaskElement.missing_eq_nil_of_clean setup fun a ha => hclean a ?_
      simp only [List.mem_append]
      exact .inl (.inl (.inr (missing_subset_childrenPlan htask hrole _ _ ha)))
    constructor
    · rw [← TaskElement.nameOf_eq kind]
      exact TaskElement.nameOf_of_missing_eq_nil hmissing
    · rintro rfl
      have haddress := TaskElement.addressOf_of_missing_eq_nil hmissing
      rw [TaskElement.detailOf_eq] at haddress
      exact haddress

namespace Sample

def foreignChild : Element where
  name := { rawSpace := some "urn:other", localName := "Icon" }

def mixedGame : Element :=
  game [("ExecutableFile", "Launcher")] [playTask, foreignChild, supportTask, playTask]

def fileContext : FileContext where
  fileId := "GameExe"
  componentId := "GameComp"
  directoryId := "INSTALLFOLDER"

def accepting : Setup := { foreign := .accept, links := some .selective }

end Sample

namespace Compilation

/-- The records of a game in a run without errors, whatever jobs ran before it. -/
theorem records_onElement_eq_game (setup : Setup) (earlier : List Job) (context : Context)
    (parent game : Element) (file : FileContext) (hparent : parent.localName = "File")
    (hgame : game.localName = "Game") (hfile : context.get? Context.fileId = some file.fileId)
    (hcomponent : context.get? Context.componentId = some file.componentId)
    (hdirectory : context.get? Context.directoryId = some file.directoryId)
    (hclean : (run setup false (earlier ++ [.onElement context parent game])).failed = false) :
    ∃ guid : Guid, (game.ownValue? "Id").bind Guid.parse? = some guid ∧
      (∀ task ∈ game.children, ∀ kind, Game.childRole task = .task kind →
        (∃ name, task.ownValue? "Name" = some name) ∧
        (kind = .support → ∃ address, task.ownValue? "Address" = some address)) ∧
      (run setup false (earlier ++ [.onElement context parent game])).records =
        (run setup false earlier).records ++
          Translation.game setup.foreign file guid.text game := by
  have hjob : run setup false [.onElement context parent game] =
      Plan.perform setup false (Game.plan game file) := by
    rw [run, List.flatMap_singleton, Job.plan,
      Job.elementPlan_of_context hparent hgame hfile hcomponent hdirectory]
  rw [run_append, Journal.failed_append, Bool.or_eq_false_iff] at hclean
  obtain ⟨hearlier, hlast⟩ := hclean
  rw [run_append, hearlier, Bool.or_false, Journal.records_append]
  rw [hearlier, Bool.or_false, hjob] at hlast
  rw [hjob, Plan.perform_of_clean setup hlast]
  rw [Plan.perform_of_clean setup hlast] at hlast
  obtain ⟨⟨guid, hguid, hid⟩, htasks⟩ := Game.required_of_clean hlast
  exact ⟨guid, hguid, htasks, by rw [Game.yields_plan file hid hlast]⟩

theorem records_of_game_behind_game :
    (run Sample.accepting false
      ([Sample.flawlessJob] ++
        [.onElement Sample.context Sample.file Sample.mixedGame])).failed = false ∧
    ∃ guid : Guid, (run Sample.accepting false
      ([Sample.flawlessJob] ++ [.onElement Sample.context Sample.file Sample.mixedGame])).records =
        (run Sample.accepting false [Sample.flawlessJob]).records ++
          Translation.game .accept Sample.fileContext guid.text Sample.mixedGame := by
  have hclean : (run Sample.accepting false
      ([Sample.flawlessJob] ++
        [.onElement Sample.context Sample.file Sample.mixedGame])).failed = false := by decide
  obtain ⟨guid, -, -, hrecords⟩ := records_onElement_eq_game Sample.accepting [Sample.flawlessJob]
    Sample.context Sample.file Sample.mixedGame Sample.fileContext rfl rfl rfl rfl rfl hclean
  exact ⟨hclean, guid, hrecords⟩

example :
    (Translation.game .accept Sample.fileContext "Guid" Sample.mixedGame).map Record.key =
      ["WixPlayTasksRoot_GameComp", "WixSupportTasksRoot_GameComp", "WixPlayTasksRoot_GameComp",
        "WixPlayTasksRoot_GameComp", "WixSupportTasksRoot_GameComp", "WixSupportTasksRoot_GameComp",
        "WixPlayTask0_GameComp", "WixPlayTask0_GameComp",
        "\x7bhttp://wixtoolset.org/schemas/v4/wxs/gaming\x7dGame/\x7burn:other\x7dIcon",
        "WixSupportTask0_GameComp", "WixSupportTask0_GameComp", "WixPlayTask1_GameComp",
        "WixPlayTask1_GameComp", "Launcher", "Guid", "WixSchedGameExplorer"] := by
  decide

end Compilation

end GameRegistration
