import GameRegistration.Compilation
import GameRegistration.Proofs.Checks
import GameRegistration.Proofs.TaskDirectory

/-! Plans of games are orderly. A task reaches an open gate only if the roots were accepted, and
then its own identifier is accepted too, as long as the game keeps within the limits on tasks. -/
namespace GameRegistration

variable {setup : Setup} {failed : Bool}

theorem TaskRoots.value_ensure (r : TaskRoots) (source : SourcePosition) (game component : String) :
    (r.ensure source game component).value = .rootsEmitted := by
  cases r <;> rfl

theorem TaskRoots.isFree_ensure (r : TaskRoots) (source : SourcePosition) (game component : String) :
    ∀ a ∈ (r.ensure source game component).actions, a.isFree = true := by
  intro a ha
  obtain ⟨id, violation, rfl⟩ | ⟨record, hrecord, rfl⟩ := Task.cases_of_mem_ensure ha
  · rfl
  · simp only [Task.rootRecords, Task.rootActions, List.cons_append, List.nil_append, List.mem_cons,
      List.not_mem_nil, or_false] at hrecord
    obtain rfl | rfl | rfl | rfl | rfl | rfl := hrecord <;> rfl

/-- Roots that are made were accepted, or an error is on record. -/
def TaskRoots.Settled (r : TaskRoots) (failed : Bool) (component : String) : Prop :=
  r = .rootsEmitted → failed = true ∨ Task.RootsAccepted component

theorem TaskRoots.Settled.mono {r : TaskRoots} {component : String}
    (h : r.Settled failed component) (now : Bool) : r.Settled (failed || now) component := by
  intro hr
  obtain hfailed | haccepted := h hr
  · exact .inl (by rw [hfailed, Bool.true_or])
  · exact .inr haccepted

theorem TaskRoots.Settled.ensure (setup : Setup) {r : TaskRoots} {component : String}
    (h : r.Settled failed component) (source : SourcePosition) (game : String) :
    (r.ensure source game component).value.Settled
      (failed || (performAll setup (r.ensure source game component).actions).failed) component := by
  cases r with
  | rootsEmitted => exact h.mono _
  | noTasksSeen =>
    intro _
    obtain hfailed | haccepted := Task.failed_roots_or_accepted setup source game component
    · exact .inl (Bool.or_eq_true_iff.2 (.inr hfailed))
    · exact .inr haccepted

theorem Task.isGated_of_mem_directory {source : SourcePosition} {component : String}
    {kind : TaskKind} {ordinal : UInt32} {r : Record}
    (h : .emit r ∈ (directory source component kind ordinal).actions) : r.isGated = true := by
  obtain ⟨id, violation, hr⟩ | hr := cases_of_mem_directory h
  · cases hr
  · cases hr
    exact bne_iff_ne.2 (rootId_ne_targetDirectory kind component)

namespace TaskElement

theorem emission_play {task : Element} {name : String} (file : FileContext) (executable : String)
    (ordinal : UInt32) (hname : nameOf .play task = some name) :
    emission .play task file executable ordinal =
      (Task.directory task.source file.componentId .play ordinal).actions ++
        [.emit (.shortcut (playShortcut task file executable
          (Identifier.compose (Task.stem .play ordinal) file.componentId) name))] := by
  unfold emission
  rw [hname]
  rfl

theorem emission_support {task : Element} {name address : String} (file : FileContext)
    (executable : String) (ordinal : UInt32) (hname : nameOf .support task = some name)
    (haddress : detailOf .support task = some address) :
    emission .support task file executable ordinal =
      (Task.directory task.source file.componentId .support ordinal).actions ++
        [.requestLink (supportLink task file
          (Identifier.compose (Task.stem .support ordinal) file.componentId) name address)] := by
  unfold emission
  rw [hname, haddress]
  rfl

theorem emission_of_missing {kind : TaskKind} {task : Element} (file : FileContext)
    (executable : String) (ordinal : UInt32) (h : missing kind task ≠ []) :
    emission kind task file executable ordinal = [] := by
  obtain ⟨a, ha⟩ := List.exists_mem_of_ne_nil _ h
  unfold emission
  obtain ⟨-, hname⟩ | ⟨-, rfl, haddress⟩ := mem_missing_iff.1 ha
  · rw [hname]
    cases kind <;> rfl
  · rw [haddress]
    cases nameOf .support task <;> rfl

theorem areOrderly_emission (kind : TaskKind) (task : Element) (file : FileContext)
    (executable : String) {ordinal : UInt32} (haccepted : Task.RootsAccepted file.componentId)
    (hlimit : ordinal.toNat < kind.maxTasks) :
    Action.areOrderly (emission kind task file executable ordinal) = true := by
  have hdirectory := haccepted.directory_actions task.source kind hlimit
  by_cases hmissing : missing kind task = []
  · cases kind with
    | play =>
      obtain ⟨name, hname⟩ := nameOf_of_missing_eq_nil hmissing
      rw [emission_play file executable ordinal hname, hdirectory]
      rfl
    | support =>
      obtain ⟨name, hname⟩ := nameOf_of_missing_eq_nil hmissing
      obtain ⟨address, haddress⟩ := addressOf_of_missing_eq_nil hmissing
      rw [emission_support file executable ordinal hname haddress, hdirectory]
      rfl
  · rw [emission_of_missing file executable ordinal hmissing]
    rfl

theorem orderly_plan (kind : TaskKind) (task : Element) (file : FileContext) (executable : String)
    {ordinal : UInt32} (hroots : failed = true ∨ Task.RootsAccepted file.componentId)
    (hlimit : ordinal.toNat < kind.maxTasks) :
    Plan.Orderly setup failed (plan kind task file executable ordinal) := by
  rw [plan, Plan.orderly_append_iff]
  refine ⟨Plan.orderly_ofActions fun a ha => isFree_checks kind task a ha,
    ⟨rfl, fun hopen => ?_⟩, trivial⟩
  rw [Bool.or_eq_false_iff] at hopen
  obtain hfailed | haccepted := hroots
  · rw [hfailed] at hopen
    cases hopen.1
  · exact areOrderly_emission kind task file executable haccepted hlimit

end TaskElement

namespace Game

/-- How many of the children are tasks of the kind. -/
def taskCount (kind : TaskKind) (children : List Element) : Nat :=
  children.countP fun child => childRole child = .task kind

theorem taskCount_cons_of_eq {kind : TaskKind} {child : Element} (rest : List Element)
    (h : childRole child = .task kind) : taskCount kind (child :: rest) = taskCount kind rest + 1 := by
  simp [taskCount, h]

theorem taskCount_cons_of_ne {kind : TaskKind} {child : Element} (rest : List Element)
    (h : childRole child ≠ .task kind) : taskCount kind (child :: rest) = taskCount kind rest := by
  simp [taskCount, h]

end Game

theorem Ordinals.toNat_get_advance_self (o : Ordinals) (kind : TaskKind)
    (h : (o.get kind).toNat < kind.maxTasks) :
    ((o.advance kind).get kind).toNat = (o.get kind).toNat + 1 := by
  have hmax : kind.maxTasks < 2 ^ 32 := by cases kind <;> decide
  rw [get_advance_self, UInt32.toNat_add]
  exact Nat.mod_eq_of_lt (by simp; omega)

namespace Game

/-- The tasks so far and those to come are within the limits together. -/
def Fits (ordinals : Ordinals) (children : List Element) : Prop :=
  ∀ kind : TaskKind, (ordinals.get kind).toNat + taskCount kind children ≤ kind.maxTasks

theorem Fits.tail_of_not_task {ordinals : Ordinals} {child : Element} {rest : List Element}
    (h : Fits ordinals (child :: rest)) (hrole : ∀ kind, childRole child ≠ .task kind) :
    Fits ordinals rest := by
  intro kind
  rw [← taskCount_cons_of_ne rest (hrole kind)]
  exact h kind

theorem Fits.lt_of_task {ordinals : Ordinals} {child : Element} {rest : List Element}
    {kind : TaskKind} (h : Fits ordinals (child :: rest)) (hrole : childRole child = .task kind) :
    (ordinals.get kind).toNat < kind.maxTasks := by
  have hkind := h kind
  rw [taskCount_cons_of_eq rest hrole] at hkind
  omega

theorem Fits.tail_of_task {ordinals : Ordinals} {child : Element} {rest : List Element}
    {kind : TaskKind} (h : Fits ordinals (child :: rest)) (hrole : childRole child = .task kind) :
    Fits (ordinals.advance kind) rest := by
  intro other
  have hother := h other
  by_cases hne : other = kind
  · subst hne
    rw [taskCount_cons_of_eq rest hrole] at hother
    rw [ordinals.toNat_get_advance_self other (h.lt_of_task hrole)]
    omega
  · rw [taskCount_cons_of_ne rest (by rw [hrole]; exact fun he => hne (by cases he; rfl))] at hother
    rw [ordinals.get_advance_of_ne hne]
    exact hother

theorem orderly_childrenPlan (game : Element) (file : FileContext) (roots : TaskRoots)
    (ordinals : Ordinals) (children : List Element) (hroots : roots.Settled failed file.componentId)
    (hfits : Fits ordinals children) :
    Plan.Orderly setup failed (childrenPlan game file roots ordinals children) := by
  induction children generalizing failed roots ordinals with
  | nil => trivial
  | cons child rest ih =>
    rw [childrenPlan]
    cases hrole : childRole child with
    | foreign =>
      exact ⟨rfl, ih roots ordinals (hroots.mono _)
        (hfits.tail_of_not_task (by rw [hrole]; exact fun _ => ChildRole.noConfusion))⟩
    | unexpected =>
      exact ⟨rfl, ih roots ordinals (hroots.mono _)
        (hfits.tail_of_not_task (by rw [hrole]; exact fun _ => ChildRole.noConfusion))⟩
    | task kind =>
      have hensured := hroots.ensure setup game.source ((instanceId game).getD "")
      have hmade := roots.value_ensure game.source ((instanceId game).getD "") file.componentId
      dsimp only
      rw [Plan.orderly_append_iff, Plan.orderly_append_iff]
      -- Either the roots were accepted or the gate of this task and of all later ones is closed.
      refine ⟨⟨Plan.orderly_ofActions (roots.isFree_ensure _ _ _), ?_⟩,
        ih _ _ ?_ (hfits.tail_of_task hrole)⟩
      · rw [Plan.perform_ofActions]
        exact TaskElement.orderly_plan kind child file _ (hensured hmade) (hfits.lt_of_task hrole)
      · rw [Plan.perform_append, Plan.perform_ofActions, Journal.failed_append, ← Bool.or_assoc]
        exact hensured.mono _

theorem isFree_attributes (game : Element) :
    ∀ a ∈ game.attributes.flatMap (attributeActions game), a.isFree = true := by
  intro a ha
  obtain ⟨attr, -, ha⟩ := List.mem_flatMap.1 ha
  exact isFree_attributeActions game attr a ha

theorem isFree_fileReferences (game : Element) (file : FileContext) :
    ∀ a ∈ fileReferences game file, a.isFree = true := by
  intro a ha
  obtain ⟨key, rfl⟩ := exists_of_mem_fileReferences ha
  rfl

theorem isFree_ends (game : Element) (file : FileContext) :
    ∀ a ∈ missingId game ++ fileReferences game file, a.isFree = true := by
  intro a ha
  obtain ha | ha := List.mem_append.1 ha
  · exact Action.isFree_of_isReport (isReport_missingId game a ha)
  · exact isFree_fileReferences game file a ha

theorem areOrderly_registration (game : Element) (file : FileContext) :
    Action.areOrderly (registration game file) = true := by
  unfold registration
  split <;> rfl

theorem orderly_plan (game : Element) (file : FileContext)
    (hlimits : ∀ kind : TaskKind, taskCount kind game.children ≤ kind.maxTasks) :
    Plan.Orderly setup failed (plan game file) := by
  have hfits : Fits {} game.children := by
    intro kind
    cases kind <;> simpa [Ordinals.get] using hlimits _
  rw [plan, Plan.orderly_append_iff, Plan.orderly_append_iff, Plan.orderly_append_iff]
  refine ⟨⟨⟨Plan.orderly_ofActions (isFree_attributes game), ?_⟩,
      Plan.orderly_ofActions (isFree_ends game file)⟩,
    ⟨rfl, fun _ => areOrderly_registration game file⟩, trivial⟩
  exact orderly_childrenPlan game file .noTasksSeen {} game.children (by intro h; cases h) hfits

end Game

namespace Job

/-- No game of the job has more tasks of a kind than have ordinals that fit. -/
def WithinLimits : Job → Prop
  | .onElement _ parent element =>
    parent.localName = "File" → element.localName = "Game" →
      ∀ kind : TaskKind, Game.taskCount kind element.children ≤ kind.maxTasks
  | .onAttribute .. => True

theorem withinLimits_of_length_le (context : Context) (parent : Element) {element : Element}
    (h : element.children.length ≤ 100000) :
    (Job.onElement context parent element).WithinLimits := by
  intro _ _ kind
  have hcount : Game.taskCount kind element.children ≤ element.children.length :=
    List.countP_le_length
  have hmax : 100000 ≤ kind.maxTasks := by
    cases kind <;> simp [TaskKind.maxTasks]
  omega

theorem orderly_elementPlan (context : Context) (parent element : Element)
    (h : (Job.onElement context parent element).WithinLimits) :
    Plan.Orderly setup failed (elementPlan context parent element) := by
  unfold elementPlan
  split
  next hnames =>
    dsimp only
    rw [Plan.orderly_append_iff]
    refine ⟨Plan.orderly_ofActions fun a ha => ?_, ?_⟩
    · exact Action.isFree_of_isReport (FileContext.isReport_resolve context _ _ a ha)
    · split
      · exact Game.orderly_plan element _ (h hnames.1 hnames.2)
      · trivial
  next => exact ⟨rfl, trivial⟩

theorem orderly_registerPlan (context : Context) (parent : Element) :
    Plan.Orderly setup failed (registerPlan context parent) := by
  unfold registerPlan
  split
  · exact ⟨rfl, trivial⟩
  · exact ⟨⟨rfl, fun _ => rfl⟩, trivial⟩

theorem orderly_attributePlan (context : Context) (parent : Element) (attr : Attribute) :
    Plan.Orderly setup failed (attributePlan context parent attr) := by
  unfold attributePlan
  split
  · split
    · exact ⟨rfl, trivial⟩
    · unfold extensionPlan
      split
      · dsimp only
        rw [Plan.orderly_append_iff]
        refine ⟨Plan.orderly_ofActions fun a ha => ?_, ?_⟩
        · exact Action.isFree_of_isReport (AttributeValue.isReport_yesNo _ _ _ a ha)
        · split
          · exact orderly_registerPlan _ parent
          · trivial
      · exact ⟨rfl, trivial⟩
  · exact ⟨rfl, trivial⟩

theorem orderly_plan {job : Job} (h : job.WithinLimits) : Plan.Orderly setup failed job.plan := by
  cases job with
  | onElement context parent element => exact orderly_elementPlan context parent element h
  | onAttribute context parent attr => exact orderly_attributePlan context parent attr

theorem orderly_plans {jobs : List Job} (h : ∀ job ∈ jobs, job.WithinLimits) :
    Plan.Orderly setup failed (jobs.flatMap Job.plan) := by
  induction jobs generalizing failed with
  | nil => trivial
  | cons job rest ih =>
    rw [List.flatMap_cons, Plan.orderly_append_iff]
    exact ⟨orderly_plan (h job (by simp)), ih fun j hj => h j (by simp [hj])⟩

end Job

end GameRegistration
