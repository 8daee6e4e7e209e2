import GameRegistration.Proofs.GuidText
import GameRegistration.Proofs.References
import GameRegistration.Proofs.ShortNames

/-! Records of a committed section are well formed. An illegal value is reported and compiled all
the same; but then the report is on record, so what is committed was made of legal values. -/
namespace GameRegistration

def Identifier.IsAccepted (id : String) : Prop := isLegal id = true ∧ id.length ≤ 72

/-- What the installer asks of each kind of record; `c` holds the values in effect where it was made. -/
def Record.IsWellFormed (c : Context) : Record → Prop
  | .game r =>
    (Guid.IsBraced r.instanceId ∧ r.instanceId.length = 38) ∧
      (c.get? Context.fileId = some r.fileRef ∨ Identifier.isLegal r.fileRef = true)
  | .directory r => Identifier.IsAccepted r.id
  | .customAction r => Identifier.IsAccepted r.id
  | .schedule r => Identifier.IsAccepted r.action
  | .shortcut r =>
    Identifier.IsAccepted r.id ∧ r.name ≠ "" ∧ r.target ≠ "" ∧ r.arguments ≠ some "" ∧
      ∀ short, r.shortName = some short → ShortName.isLegal short false = true
  | .registry r => Identifier.isLegal r.id = true ∧ r.id.length = 30
  | .reference _ => True

namespace AttributeValue
variable {setup : Setup} {source : SourcePosition} {element : String} {attr : Attribute}

theorem ne_empty_of_clean (h : (performAll setup (text source element attr).actions).failed = false) :
    attr.value ≠ "" := by
  intro hempty
  rw [text, if_pos hempty] at h
  cases h

theorem isLegal_of_clean
    (h : (performAll setup (identifier source element attr).actions).failed = false) :
    Identifier.isLegal attr.value = true := by
  unfold identifier at h
  split at h
  next hempty => exact absurd hempty (ne_empty_of_clean h)
  next =>
    dsimp only at h
    cases hlegal : Identifier.isLegal attr.value with
    | true => rfl
    | false =>
      rw [hlegal] at h
      cases h

end AttributeValue

/-- The actions make well formed records only, if none of them records an error. -/
def MakesWellFormed (setup : Setup) (c : Context) (actions : List Action) : Prop :=
  (performAll setup actions).failed = false →
    ∀ r ∈ (performAll setup actions).records, r.IsWellFormed c

namespace MakesWellFormed
variable {setup : Setup} {c : Context}

theorem append {a b : List Action} (ha : MakesWellFormed setup c a)
    (hb : MakesWellFormed setup c b) : MakesWellFormed setup c (a ++ b) := by
  intro hclean r hr
  rw [performAll_append, Journal.failed_append, Bool.or_eq_false_iff] at hclean
  rw [performAll_append, Journal.records_append, List.mem_append] at hr
  exact hr.elim (ha hclean.1 r) (hb hclean.2 r)

theorem of_yields {actions : List Action} {records : List Record}
    (hyields : Yields setup actions records)
    (h : (performAll setup actions).failed = false → ∀ r ∈ records, r.IsWellFormed c) :
    MakesWellFormed setup c actions := by
  intro hclean
  rw [hyields hclean]
  exact h hclean

end MakesWellFormed

theorem ForeignPolicy.isWellFormed_records (policy : ForeignPolicy) (nodes : List ForeignNode)
    (c : Context) : ∀ r ∈ policy.records nodes, r.IsWellFormed c := by
  intro r hr
  cases policy with
  | accept =>
    obtain ⟨node, -, rfl⟩ := List.mem_map.1 hr
    trivial
  | _ => cases hr

namespace Task
variable {setup : Setup} {c : Context}

theorem isAccepted_of_violation? {id : String} (h : Identifier.violation? id = none) :
    Identifier.IsAccepted id := (Identifier.violation?_eq_none_iff.1 h).symm

theorem isAccepted_of_clean {source : SourcePosition} {stem component : String}
    (h : (performAll setup (directoryId source stem component).actions).failed = false) :
    Identifier.IsAccepted (Identifier.compose stem component) := by
  cases hviolation : Identifier.violation? (Identifier.compose stem component) with
  | none => exact isAccepted_of_violation? hviolation
  | some violation =>
    rw [directoryId, hviolation] at h
    cases h

theorem makesWellFormed_roots (source : SourcePosition) (game component : String) :
    MakesWellFormed setup c (roots source game component) := by
  have hyields : Yields setup (roots source game component)
      (rootRecords source game (rootId source .play component).value
        (rootId source .support component).value) :=
    (yields_directoryIds source TaskKind.play.rootStem TaskKind.support.rootStem component).append
      (Yields.emit _)
  refine .of_yields hyields fun hclean r hr => ?_
  have haccepted (kind : TaskKind) :
      Identifier.IsAccepted (Identifier.compose kind.rootStem component) := by
    obtain hfailed | hroots := failed_roots_or_accepted setup source game component
    · exact absurd (hfailed.symm.trans hclean) (by decide)
    · exact isAccepted_of_violation? (hroots kind)
  simp only [rootRecords, rootActions, List.nil_append, List.cons_append, List.mem_cons,
    List.not_mem_nil, or_false] at hr
  obtain rfl | rfl | rfl | rfl | rfl | rfl := hr
  · exact haccepted .play
  · exact haccepted .support
  · exact haccepted .play
  · exact haccepted .play
  · exact haccepted .support
  · exact haccepted .support

end Task

namespace TaskElement
variable {setup : Setup} {c : Context}

theorem ne_empty_of_valueOf {kind : TaskKind} {wanted : Role} {task : Element} {value : String}
    (hwanted : wanted = .name ∨ wanted = .detail) (h : valueOf kind wanted task = some value)
    (hclean : (performAll setup (checks kind task)).failed = false) : value ≠ "" := by
  obtain ⟨attr, hattr, rfl⟩ := Option.map_eq_some_iff.1 h
  have hrole : role kind attr = wanted :=
    beq_iff_eq.1 (List.find?_some (p := (role kind · == wanted)) hattr)
  have hactions : attributeActions kind task attr =
      (AttributeValue.text task.source task.localName attr).actions := by
    rw [attributeActions, hrole]
    obtain rfl | rfl := hwanted <;> rfl
  refine AttributeValue.ne_empty_of_clean
    (?_ : (performAll setup
      (AttributeValue.text task.source task.localName attr).actions).failed = false)
  rw [performAll_clean_iff] at hclean ⊢
  refine fun a ha => hclean a ?_
  rw [← hactions] at ha
  have hmem : attr ∈ task.attributes := List.mem_reverse.1 (List.mem_of_find?_eq_some hattr)
  simp only [checks, List.mem_append, List.mem_flatMap]
  exact .inl (.inl ⟨attr, hmem, ha⟩)

theorem isAccepted_of_emission {kind : TaskKind} {task : Element} {file : FileContext}
    {executable : String} {ordinal : UInt32} (hmissing : missing kind task = [])
    (hclean : (performAll setup (emission kind task file executable ordinal)).failed = false) :
    Identifier.IsAccepted (Identifier.compose (Task.stem kind ordinal) file.componentId) := by
  refine Task.isAccepted_of_clean
    (?_ : (performAll setup (Task.directoryId task.source (Task.stem kind ordinal)
      file.componentId).actions).failed = false)
  rw [performAll_clean_iff] at hclean ⊢
  refine fun a ha => hclean a ?_
  have hdirectory : a ∈ (Task.directory task.source file.componentId kind ordinal).actions := by
    simp only [Task.directory, List.mem_append]
    exact .inl (.inr ha)
  obtain ⟨name, hname⟩ := nameOf_of_missing_eq_nil hmissing
  cases kind with
  | play =>
    rw [emission_play file executable ordinal hname]
    exact List.mem_append_left _ hdirectory
  | support =>
    obtain ⟨address, haddress⟩ := addressOf_of_missing_eq_nil hmissing
    rw [emission_support file executable ordinal hname haddress]
    exact List.mem_append_left _ hdirectory

theorem isWellFormed_shortcut {kind : TaskKind} {task : Element} (file : FileContext)
    (executable : String) {directory name : String} (hid : Identifier.IsAccepted directory)
    (hname : name ≠ "") (hmissing : missing kind task = [])
    (hdetail : ∀ value, detailOf kind task = some value → value ≠ "") :
    (Record.shortcut (Translation.shortcut file executable directory task name kind)).IsWellFormed c := by
  cases kind with
  | play =>
    rw [detailOf_eq] at hdetail
    refine ⟨hid, hname, ?_, fun harguments => hdetail "" harguments rfl, fun short hshort => ?_⟩
    · intro htarget
      have hchars := congrArg String.toList htarget
      simp [Translation.shortcut] at hchars
    · rw [Translation.shortcut] at hshort
      dsimp only at hshort
      split at hshort
      · cases hshort
      · rw [← Option.some.inj hshort]
        exact ShortName.isLegal_generate name true false _
  | support =>
    obtain ⟨address, haddress⟩ := addressOf_of_missing_eq_nil hmissing
    have htarget := hdetail address haddress
    rw [detailOf_eq] at haddress
    change task.ownValue? "Address" = some address at haddress
    refine ⟨hid, hname, ?_, ?_, fun short hshort => ?_⟩
    · rw [Translation.shortcut, haddress]
      exact htarget
    · intro harguments
      cases harguments
    · cases hshort

theorem makesWellFormed_plan (kind : TaskKind) (task : Element) (file : FileContext)
    (executable : String) (ordinal : UInt32) :
    MakesWellFormed setup c (plan kind task file executable ordinal).opened := by
  refine .of_yields (yields_plan kind task file executable ordinal) fun hclean r hr => ?_
  rw [opened_plan, performAll_append, Journal.failed_append, Bool.or_eq_false_iff] at hclean
  obtain ⟨hchecks, hemission⟩ := hclean
  have hmissing : missing kind task = [] := by
    refine missing_eq_nil_of_clean setup fun a ha => (performAll_clean_iff setup _).1 hchecks a ?_
    exact List.mem_append_right _ ha
  obtain hr | hr := List.mem_append.1 hr
  · exact setup.foreign.isWellFormed_records _ c r hr
  · have hid := isAccepted_of_emission hmissing hemission
    obtain ⟨name, hname⟩ := nameOf_of_missing_eq_nil hmissing
    have hnonempty : name ≠ "" := ne_empty_of_valueOf (.inl rfl) hname hchecks
    rw [nameOf_eq] at hname
    rw [Translation.task, hname] at hr
    simp only [List.mem_cons, List.not_mem_nil, or_false] at hr
    obtain rfl | rfl := hr
    · exact hid
    · exact isWellFormed_shortcut file executable hid hnonempty hmissing fun value hvalue =>
        ne_empty_of_valueOf (.inr rfl) hvalue hchecks

end TaskElement

namespace Game
variable {setup : Setup} {c : Context}

theorem makesWellFormed_ensure (roots : TaskRoots) (source : SourcePosition)
    (game component : String) :
    MakesWellFormed setup c (roots.ensure source game component).actions := by
  cases roots with
  | noTasksSeen => exact Task.makesWellFormed_roots source game component
  | rootsEmitted => exact fun _ r hr => nomatch hr

theorem makesWellFormed_childrenPlan (game : Element) (file : FileContext) (roots : TaskRoots)
    (ordinals : Ordinals) (children : List Element) :
    MakesWellFormed setup c (childrenPlan game file roots ordinals children).opened := by
  induction children generalizing roots ordinals with
  | nil => exact fun _ r hr => absurd hr List.not_mem_nil
  | cons child rest ih =>
    rw [childrenPlan]
    cases childRole child with
    | foreign =>
      rw [Plan.opened_act, ← List.singleton_append]
      refine MakesWellFormed.append (.of_yields (Yields.hand _) fun _ => ?_) (ih roots ordinals)
      exact setup.foreign.isWellFormed_records _ c
    | unexpected =>
      rw [Plan.opened_act, ← List.singleton_append]
      refine MakesWellFormed.append (.of_yields (.of_isReport ?_) fun _ r hr => absurd hr List.not_mem_nil)
        (ih roots ordinals)
      rw [List.forall_mem_singleton]
      rfl
    | task kind =>
      dsimp only
      rw [Plan.opened_append, Plan.opened_append, Plan.opened_ofActions]
      exact ((makesWellFormed_ensure roots _ _ _).append
        (TaskElement.makesWellFormed_plan kind child file _ _)).append (ih _ _)

theorem definitionFile_cases {game : Element} (file : FileContext)
    (hclean : (performAll setup (game.attributes.flatMap (attributeActions game))).failed = false) :
    definitionFile game file = file.fileId ∨
      ∃ a : Attribute, definitionFile game file = a.value ∧
        (performAll setup
          (AttributeValue.identifier game.source game.localName a).actions).failed = false := by
  unfold definitionFile
  cases hattr : attributeOf game .definition with
  | none => exact .inl rfl
  | some a =>
    have hrole : role a = .definition :=
      beq_iff_eq.1 (List.find?_some (p := (role · == Role.definition)) hattr)
    refine .inr ⟨a, rfl, ?_⟩
    rw [performAll_clean_iff] at hclean ⊢
    refine fun action haction => hclean action ?_
    have hmem : a ∈ game.attributes := List.mem_reverse.1 (List.mem_of_find?_eq_some hattr)
    refine List.mem_flatMap.2 ⟨a, hmem, ?_⟩
    rw [attributeActions, hrole]
    exact haction

theorem isLegal_definition {game : Element} {file : FileContext}
    (hclean : (performAll setup (game.attributes.flatMap (attributeActions game))).failed = false) :
    definitionFile game file = file.fileId ∨
      Identifier.isLegal (definitionFile game file) = true := by
  refine (definitionFile_cases file hclean).imp_right ?_
  rintro ⟨a, hvalue, hread⟩
  rw [hvalue]
  exact AttributeValue.isLegal_of_clean hread

theorem clean_attributes_of_clean {game : Element} {file : FileContext}
    (hclean : (performAll setup (plan game file).opened).failed = false) :
    (performAll setup (game.attributes.flatMap (attributeActions game))).failed = false := by
  rw [opened_plan] at hclean
  rw [performAll_clean_iff] at hclean ⊢
  refine fun a ha => hclean a ?_
  simp only [List.mem_append]
  exact .inl (.inl (.inl ha))

theorem makesWellFormed_registration {game : Element} {file : FileContext}
    (hfile : c.get? Context.fileId = some file.fileId) {guid : Guid}
    (hid : instanceId game = some guid.text)
    (hclean : (performAll setup (game.attributes.flatMap (attributeActions game))).failed = false) :
    MakesWellFormed setup c (registration game file) := by
  refine .of_yields (yields_registration file hid) fun _ r hr => ?_
  rw [← definitionFile_eq] at hr
  simp only [List.mem_cons, List.not_mem_nil, or_false] at hr
  obtain rfl | rfl := hr
  · refine ⟨⟨guid.isBraced_text, guid.isBraced_text.length_eq⟩, ?_⟩
    exact (isLegal_definition hclean).imp (fun hown => by rw [hfile, hown]) id
  · trivial

theorem makesWellFormed_ends (game : Element) (file : FileContext) :
    MakesWellFormed setup c (missingId game ++ fileReferences game file) := by
  refine MakesWellFormed.append (.of_yields (.of_isReport (isReport_missingId game)) ?_)
    (.of_yields (yields_fileReferences game file) fun _ r hr => ?_)
  · exact fun _ r hr => nomatch hr
  · obtain ⟨key, -, rfl⟩ := List.mem_map.1 hr
    trivial

theorem makesWellFormed_plan {game : Element} {file : FileContext}
    (hfile : c.get? Context.fileId = some file.fileId) :
    MakesWellFormed setup c (plan game file).opened := by
  intro hclean
  obtain ⟨⟨guid, -, hid⟩, -⟩ := required_of_clean hclean
  have hread := clean_attributes_of_clean hclean
  rw [opened_plan] at hclean ⊢
  have hattributes : MakesWellFormed setup c (game.attributes.flatMap (attributeActions game)) :=
    .of_yields (yields_attributes game) fun _ => setup.foreign.isWellFormed_records _ c
  exact (((hattributes.append (makesWellFormed_childrenPlan game file _ _ _)).append
    (makesWellFormed_ends game file)).append (makesWellFormed_registration hfile hid hread)) hclean

end Game

theorem SavedGame.isWellFormed_values (g : SavedGame) (source : SourcePosition) (c : Context) :
    ∀ value ∈ g.values source, (Record.registry value).IsWellFormed c := by
  have hstem : Identifier.isLegal "reg" = true := by decide
  intro value hvalue
  simp only [values, List.mem_cons, List.not_mem_nil, or_false] at hvalue
  obtain rfl | rfl | rfl | rfl := hvalue <;>
    exact ⟨Identifier.isLegal_hashed _ hstem, Identifier.length_hashed _ _⟩

theorem Job.isWellFormed_of_clean {setup : Setup} {job : Job}
    (hclean : (Plan.perform setup false job.plan).failed = false) :
    ∀ record ∈ (Plan.perform setup false job.plan).records, record.IsWellFormed job.context := by
  intro record hrecord
  cases hgame : job.game? with
  | some pair =>
    have hfile := (context_of_game? hgame).2.1
    rw [plan_of_game? hgame] at hclean hrecord
    have hopen := Plan.perform_of_clean setup hclean
    rw [hopen] at hclean hrecord
    exact Game.makesWellFormed_plan hfile hclean record hrecord
  | none =>
    obtain ⟨context, parent, attr, rfl⟩ := onAttribute_of_game?_eq_none hgame hclean
    obtain hnone | ⟨saved, -, -, hrecords⟩ :=
      (allOrNothing_onAttribute setup false context parent attr).records_cases
    · rw [← Job.perform, hnone] at hrecord
      cases hrecord
    · rw [← Job.perform, hrecords] at hrecord
      obtain ⟨value, hvalue, rfl⟩ := List.mem_map.1 hrecord
      exact saved.isWellFormed_values parent.source context value hvalue

namespace Request

/-- Every record of a committed section has a job that made it, and is well formed there. -/
theorem records_wellFormed (r : Request) (setup : Setup) (commit : Commit)
    (h : r.outcome setup = .ok commit) :
    ∀ record ∈ commit.content.records, ∃ job ∈ r.jobs,
      record ∈ ((r.alone job).run setup).records ∧ record.IsWellFormed job.context := by
  have hcommitted : r.IsCommitted setup := ⟨commit, h⟩
  intro record hrecord
  rw [(Compilation.finish_eq_ok_iff.1 h).2] at hrecord
  change record ∈ (r.run setup).records at hrecord
  rw [records_of_isCommitted hcommitted] at hrecord
  obtain ⟨job, hjob, hrecord⟩ := List.mem_flatMap.1 hrecord
  refine ⟨job, hjob, ?_, Job.isWellFormed_of_clean (clean_of_isCommitted hcommitted hjob) record hrecord⟩
  rw [records_alone]
  exact hrecord

theorem wellFormed_records_of_request :
    ∃ commit, Sample.request.outcome Sample.accepting = .ok commit ∧
      ∀ record ∈ commit.content.records, ∃ job ∈ Sample.request.jobs,
        record ∈ ((Sample.request.alone job).run Sample.accepting).records ∧
          record.IsWellFormed job.context := by
  obtain ⟨commit, h⟩ : Sample.request.IsCommitted Sample.accepting :=
    isCommitted_iff_clean.2 (by decide)
  exact ⟨commit, h, records_wellFormed Sample.request Sample.accepting commit h⟩

end Request

end GameRegistration
