import Mathlib.Data.List.Forall2
import GameRegistration.Proofs.JobRecords
import GameRegistration.Proofs.SupportLinks

/-! Support tasks are never dropped. Each one in a committed request is matched by one link, in
order, and without an emitter that makes links there is no commit. -/
namespace GameRegistration

/-- The link is that of the task; of repeated attributes the last one counts. -/
structure SupportLink.IsOf (link : SupportLink) (task : Element) : Prop where
  source : link.source = task.source
  name : task.ownValue? "Name" = some link.name
  address : task.ownValue? "Address" = some link.address

namespace TaskElement
variable {task : Element} (file : FileContext) (executable : String) (ordinal : UInt32)

theorem filterMap_link?_directory {source : SourcePosition} {component : String} {kind : TaskKind}
    {ordinal : UInt32} :
    (Task.directory source component kind ordinal).actions.filterMap Action.link? = [] :=
  List.filterMap_eq_nil_iff.2 link?_of_mem_directory

theorem filterMap_link?_play :
    (emission .play task file executable ordinal).filterMap Action.link? = [] := by
  by_cases hmissing : missing .play task = []
  · obtain ⟨name, hname⟩ := nameOf_of_missing_eq_nil hmissing
    rw [emission_play file executable ordinal hname, List.filterMap_append, filterMap_link?_directory]
    rfl
  · rw [emission_of_missing file executable ordinal hmissing]
    rfl

theorem filterMap_link?_support (hmissing : missing .support task = []) :
    ∃ link, SupportLink.IsOf link task ∧
      (emission .support task file executable ordinal).filterMap Action.link? = [link] := by
  obtain ⟨name, hname⟩ := nameOf_of_missing_eq_nil hmissing
  obtain ⟨address, haddress⟩ := addressOf_of_missing_eq_nil hmissing
  rw [emission_support file executable ordinal hname haddress, List.filterMap_append,
    filterMap_link?_directory]
  rw [nameOf_eq] at hname
  rw [detailOf_eq] at haddress
  change task.ownValue? "Address" = some address at haddress
  exact ⟨_, ⟨rfl, hname, haddress⟩, rfl⟩

end TaskElement

namespace Game

def supportTasks (children : List Element) : List Element :=
  children.filter (childRole · == .task .support)

/-- What a game asks for while no error is on record: one link for each support task, in order. -/
theorem forall₂_links_childrenPlan (game : Element) (file : FileContext) (roots : TaskRoots)
    (ordinals : Ordinals) {children : List Element}
    (h : ∀ task ∈ supportTasks children, TaskElement.missing .support task = []) :
    List.Forall₂ (fun task link => SupportLink.IsOf link task) (supportTasks children)
      ((childrenPlan game file roots ordinals children).opened.filterMap Action.link?) := by
  induction children generalizing roots ordinals with
  | nil => exact .nil
  | cons c rest ih =>
    rw [childrenPlan]
    cases hrole : childRole c with
    | foreign =>
      rw [supportTasks, List.filter_cons_of_neg (by simp [hrole])] at h ⊢
      exact ih roots ordinals h
    | unexpected =>
      rw [supportTasks, List.filter_cons_of_neg (by simp [hrole])] at h ⊢
      exact ih roots ordinals h
    | task kind =>
      -- only behind its gate does a task ask for a link
      have hroots := Action.link?_eq_none_of_isFree
        (roots.isFree_ensure game.source ((instanceId game).getD "") file.componentId)
      have hchecks := Action.link?_eq_none_of_isFree (TaskElement.isFree_checks kind c)
      dsimp only
      rw [Plan.opened_append, Plan.opened_append, Plan.opened_ofActions, TaskElement.opened_plan,
        List.filterMap_append, List.filterMap_append, List.filterMap_append, hroots, hchecks,
        List.nil_append, List.nil_append]
      cases kind with
      | play =>
        rw [supportTasks, List.filter_cons_of_neg (by simp [hrole])] at h ⊢
        rw [TaskElement.filterMap_link?_play]
        exact ih _ _ h
      | support =>
        rw [supportTasks, List.filter_cons_of_pos (by simp [hrole])] at h ⊢
        rw [List.forall_mem_cons] at h
        obtain ⟨link, hlink, hemission⟩ := TaskElement.filterMap_link?_support file
          (executableFile game file) (ordinals.get .support) h.1
        rw [hemission]
        exact .cons hlink (ih _ _ h.2)

theorem forall₂_links_plan {setup : Setup} {game : Element} {file : FileContext}
    (hclean : (performAll setup (plan game file).opened).failed = false) :
    List.Forall₂ (fun task link => SupportLink.IsOf link task) (supportTasks game.children)
      ((plan game file).opened.filterMap Action.link?) := by
  have hattributes := Action.link?_eq_none_of_isFree (isFree_attributes game)
  have hends := Action.link?_eq_none_of_isFree (isFree_ends game file)
  have hregistration : (registration game file).filterMap Action.link? = [] := by
    unfold registration
    split <;> rfl
  have hmissing : ∀ task ∈ supportTasks game.children,
      TaskElement.missing .support task = [] := by
    intro task htask
    obtain ⟨hmem, hrole⟩ := List.mem_filter.1 htask
    rw [beq_iff_eq] at hrole
    refine TaskElement.missing_eq_nil_of_clean setup fun a ha => ?_
    refine (performAll_clean_iff setup _).1 hclean a ?_
    rw [opened_plan]
    simp only [List.mem_append]
    exact .inl (.inl (.inr (missing_subset_childrenPlan hmem hrole _ _ ha)))
  rw [opened_plan, List.filterMap_append, List.filterMap_append, List.filterMap_append, hattributes,
    hends, hregistration, List.nil_append, List.append_nil, List.append_nil]
  exact forall₂_links_childrenPlan game file _ _ hmissing

end Game

namespace Job
variable {setup : Setup}

def supportTasks : Job → List Element
  | .onElement _ parent element =>
    if parent.localName = "File" ∧ element.localName = "Game" then
      element.children.filter fun c => c.name.isIn gamingSpace && c.localName == "SupportTask"
    else []
  | .onAttribute .. => []

theorem isSupportTask_iff {c : Element} :
    (c.name.isIn gamingSpace && c.localName == "SupportTask") = true ↔
      Game.childRole c = .task .support := by
  unfold Game.childRole
  cases c.name.isIn gamingSpace with
  | false => simp
  | true =>
    by_cases hplay : c.localName = "PlayTask"
    · simp [hplay]
    · by_cases hsupport : c.localName = "SupportTask" <;> simp [hplay, hsupport]

theorem supportTasks_of_game? {job : Job} {file : FileContext} {game : Element}
    (h : job.game? = some (file, game)) : job.supportTasks = Game.supportTasks game.children := by
  obtain ⟨⟨parent, hparent, hgame, hjob⟩, -⟩ := context_of_game? h
  rw [hjob, supportTasks, if_pos ⟨hparent, hgame⟩]
  refine List.filter_congr fun c _ => ?_
  rw [Bool.eq_iff_iff, isSupportTask_iff, beq_iff_eq]

theorem forall₂_links {job : Job} (hclean : (Plan.perform setup false job.plan).failed = false) :
    List.Forall₂ (fun task call => SupportLink.IsOf call.1 task ∧ call.2 = true) job.supportTasks
      (Plan.perform setup false job.plan).links := by
  cases hgame : job.game? with
  | none =>
    obtain ⟨context, parent, attr, rfl⟩ := onAttribute_of_game?_eq_none hgame hclean
    rw [plan, Plan.links_eq_nil link?_of_mem_attributePlan]
    exact .nil
  | some pair =>
    rw [plan_of_game? hgame] at hclean ⊢
    have hopen := Plan.perform_of_clean setup hclean
    rw [hopen] at hclean ⊢
    rw [links_performAll_of_clean hclean, supportTasks_of_game? hgame, List.forall₂_map_right_iff]
    exact (Game.forall₂_links_plan hclean).imp fun _ _ hlink => ⟨hlink, rfl⟩

end Job

namespace Request
variable {setup : Setup} {r : Request}

theorem links_alone (r : Request) (job : Job) :
    ((r.alone job).run setup).links = (Plan.perform setup false job.plan).links := by
  rw [run_alone_eq, Journal.links_append]
  rfl

theorem forall₂_links (h : r.IsCommitted setup) :
    List.Forall₂ (fun task call => SupportLink.IsOf call.1 task ∧ call.2 = true)
      (r.jobs.flatMap Job.supportTasks) (r.run setup).links := by
  have hlinks : (r.run setup).links =
      r.jobs.flatMap fun job => (Plan.perform setup false job.plan).links := by
    simp only [Journal.links, entries_of_isCommitted h, List.filterMap_flatMap]
    exact List.flatMap_congr fun job _ => links_alone r job
  have hjobs : List.Forall₂ (fun a b => a = b ∧ a ∈ r.jobs) r.jobs r.jobs :=
    List.forall₂_same.2 fun job hjob => ⟨rfl, hjob⟩
  rw [hlinks]
  refine List.rel_flatMap hjobs ?_
  rintro job _ ⟨rfl, hjob⟩
  exact Job.forall₂_links (clean_of_isCommitted h hjob)

/-- A support task of a committed request has an emitter that accepted it. -/
theorem exists_accepted_link (h : r.IsCommitted setup) {job : Job} (hjob : job ∈ r.jobs)
    {task : Element} (htask : task ∈ job.supportTasks) :
    ∃ emitter link, setup.links = some emitter ∧ emitter.accepts link = true ∧ link.IsOf task := by
  have hmem : task ∈ r.jobs.flatMap Job.supportTasks := List.mem_flatMap.2 ⟨job, hjob, htask⟩
  obtain ⟨i, hi, rfl⟩ := List.getElem_of_mem hmem
  have hlinks := forall₂_links h
  have hi' : i < (r.run setup).links.length := by rwa [← hlinks.length_eq]
  obtain ⟨hlink, hmade⟩ := hlinks.get hi hi'
  obtain ⟨emitter, hemitter, haccepts⟩ :=
    (invariant_isAnswered setup).plan false (r.jobs.flatMap Job.tracedPlan) _ (List.getElem_mem hi')
  exact ⟨emitter, _, hemitter, haccepts.trans hmade, hlink⟩

theorem not_isCommitted_of_no_emitter (hlinks : setup.links = none ∨ setup.links = some .refuse)
    {job : Job} (hjob : job ∈ r.jobs) (hsome : job.supportTasks ≠ []) : ¬ r.IsCommitted setup := by
  intro h
  obtain ⟨task, htask⟩ := List.exists_mem_of_ne_nil _ hsome
  obtain ⟨emitter, link, hemitter, haccepts, -⟩ := exists_accepted_link h hjob htask
  obtain hnone | hrefuse := hlinks
  · rw [hnone] at hemitter
    cases hemitter
  · rw [hrefuse] at hemitter
    cases hemitter
    cases haccepts

theorem not_marked_of_selective (hselective : setup.links = some .selective)
    (h : r.IsCommitted setup) {job : Job} (hjob : job ∈ r.jobs) {task : Element}
    (htask : task ∈ job.supportTasks) {address : String}
    (haddress : task.ownValue? "Address" = some address) : ¬ "bad:".toList <+: address.toList := by
  intro hbad
  obtain ⟨emitter, link, hemitter, haccepts, hlink⟩ := exists_accepted_link h hjob htask
  rw [hselective] at hemitter
  cases hemitter
  have hsame : link.address = address := Option.some.inj (hlink.address.symm.trans haddress)
  rw [LinkEmitter.accepts, SupportLink.isMarkedBad, hsame, Bool.not_eq_true',
    List.isPrefixOf_iff_prefix.2 hbad] at haccepts
  cases haccepts

theorem directory_of_link {before after : List Entry} {link : SupportLink} {accepted : Bool}
    (hsplit : (r.run setup).entries = before ++ .linked link accepted :: after) :
    ∃ d, (before.filterMap Entry.record?).getLast? = some (.directory d) ∧ link.IsIn d := by
  have hplaced := linksFollow_run r setup
  rw [hsplit] at hplaced
  obtain ⟨d, hlast, hd⟩ := hplaced.directory_of_split
  rw [Option.or_none] at hlast
  exact ⟨d, hlast, hd⟩

/-- Whatever else a request holds: without an emitter that makes links, a support task keeps it from
being committed; a selective one lets no marked address through; and a committed request has one link
for each support task, made and right behind its directory. -/
theorem supportTasks_linked (r : Request) (setup : Setup) :
    ((∃ job ∈ r.jobs, job.supportTasks ≠ []) →
      setup.links = none ∨ setup.links = some .refuse → ¬ r.IsCommitted setup) ∧
    (setup.links = some .selective → r.IsCommitted setup →
      ∀ job ∈ r.jobs, ∀ task ∈ job.supportTasks, ∀ address,
        task.ownValue? "Address" = some address → ¬ "bad:".toList <+: address.toList) ∧
    (r.IsCommitted setup →
      List.Forall₂ (fun task call => SupportLink.IsOf call.1 task ∧ call.2 = true)
        (r.jobs.flatMap Job.supportTasks) (r.run setup).links ∧
      ∀ before after link accepted,
        (r.run setup).entries = before ++ .linked link accepted :: after →
        ∃ d, (before.filterMap Entry.record?).getLast? = some (.directory d) ∧ link.IsIn d) := by
  refine ⟨?_, ?_, ?_⟩
  · rintro ⟨job, hjob, hsome⟩ hlinks
    exact not_isCommitted_of_no_emitter hlinks hjob hsome
  · intro hselective h job hjob task htask address haddress
    exact not_marked_of_selective hselective h hjob htask haddress
  · intro h
    exact ⟨forall₂_links h, fun before after link accepted hsplit => directory_of_link hsplit⟩

example :
    (({ sectionId := "product", jobs := [Sample.flawlessJob, Sample.flawlessJob] } : Request).run
      Sample.accepting).links.map (fun call => (call.1.directory, call.1.address, call.2)) =
        [("WixSupportTask0_GameComp", "http://help", true),
         ("WixSupportTask0_GameComp", "http://help", true)] := by
  decide

end Request

end GameRegistration
