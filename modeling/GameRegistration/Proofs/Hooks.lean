import GameRegistration.Proofs.Journal

/-! Any surrounding compiler. Of its hooks nothing is known but that they report problems and add
records, and what a hook does next may depend on all that was done before. -/
namespace GameRegistration

inductive Hook where
  | host
  | link

def Hook.origin : Hook → Origin
  | .host => .host
  | .link => .link

/-- One thing done in a compilation, by itself or by a hook. -/
inductive Call where
  | error (source : SourcePosition) (problem : Problem)
  | warning (source : SourcePosition) (problem : Problem)
  | emit (record : Record)
  | note (event : Event)
  | add (hook : Hook) (record : Record)
  | hand (node : ForeignNode)
  | linked (link : SupportLink) (accepted : Bool)

def Call.perform (policy : WarningPolicy) : Call → Journal
  | .error source problem => Journal.error source problem
  | .warning source problem => Journal.warning policy source problem
  | .emit record => Journal.emit record
  | .note event => Journal.note event
  | .add hook record => Journal.add hook.origin record
  | .hand node => { entries := [.handed node] }
  | .linked link accepted => { entries := [.linked link accepted] }

def performCalls (policy : WarningPolicy) : List Call → Journal
  | [] => {}
  | call :: rest => call.perform policy ++ performCalls policy rest

inductive HostCall where
  | error (source : SourcePosition) (problem : Problem)
  | warning (source : SourcePosition) (problem : Problem)
  | add (record : Record)

def HostCall.call : HostCall → Call
  | .error source problem => .error source problem
  | .warning source problem => .warning source problem
  | .add record => .add .host record

/-- What the hooks do after the calls so far. The records of a link stay even if it is refused. -/
structure Hooks where
  foreign : List Call → ForeignNode → List HostCall
  links : Option (List Call → SupportLink → List Record × Option Problem)

namespace Hooks

def hand (hooks : Hooks) (before : List Call) (node : ForeignNode) : List Call :=
  .hand node :: (hooks.foreign before node).map HostCall.call

def link (hooks : Hooks) (before : List Call) (link : SupportLink) : List Call :=
  match hooks.links with
  | none => [.error link.source (.noLinkEmitter link.name link.directory)]
  | some emitter =>
    let (records, refusal) := emitter before link
    (.linked link refusal.isNone :: records.map (.add .link)) ++
      refusal.toList.map fun problem =>
        .error link.source (.linkFailed link.directory problem.message)

end Hooks

section Calls
variable (policy : WarningPolicy) (hooks : Hooks)

def Action.calls (before : List Call) : Action → List Call
  | .error source problem => [.error source problem]
  | .warning source problem => [.warning source problem]
  | .emit record => [.emit record]
  | .note event => [.note event]
  | .hand node => hooks.hand before node
  | .requestLink link => hooks.link before link

def callsOfAll (before : List Call) : List Action → List Call
  | [] => []
  | action :: rest =>
    let now := action.calls hooks before
    now ++ callsOfAll (before ++ now) rest

/-- A gate asks the sink, in which the hooks may have written. -/
def Step.calls (before : List Call) : Step → List Call
  | .act action => action.calls hooks before
  | .gate closed opened =>
    callsOfAll hooks before (if (performCalls policy before).failed then closed else opened)

def Plan.calls (before : List Call) : Plan → List Call
  | [] => []
  | step :: rest =>
    let now := step.calls policy hooks before
    now ++ Plan.calls (before ++ now) rest

def Compilation.calls (jobs : List Job) : List Call :=
  Plan.calls policy hooks [] (jobs.flatMap Job.plan)

end Calls

theorem performCalls_append (policy : WarningPolicy) (a b : List Call) :
    performCalls policy (a ++ b) = performCalls policy a ++ performCalls policy b := by
  induction a with
  | nil => exact (Journal.empty_append _).symm
  | cons call rest ih => rw [List.cons_append, performCalls, ih, performCalls, Journal.append_assoc]

theorem performCalls_singleton (policy : WarningPolicy) (call : Call) :
    performCalls policy [call] = call.perform policy := Journal.append_empty _

theorem performCalls_of_each {policy : WarningPolicy} {P : Journal → Prop} (empty : P {})
    (append : ∀ {a b : Journal}, P a → P b → P (a ++ b)) {calls : List Call}
    (h : ∀ call ∈ calls, P (call.perform policy)) : P (performCalls policy calls) := by
  induction calls with
  | nil => exact empty
  | cons call rest ih =>
    rw [List.forall_mem_cons] at h
    exact append h.1 (ih h.2)

theorem filterMap_performCalls {policy : WarningPolicy} {β : Type} {f : Entry → Option β}
    {g : Call → Option β}
    (h : ∀ call : Call, (call.perform policy).entries.filterMap f = (g call).toList)
    (calls : List Call) :
    (performCalls policy calls).entries.filterMap f = calls.filterMap g := by
  induction calls with
  | nil => rfl
  | cons call rest ih =>
    rw [performCalls, Journal.entries_append, List.filterMap_append, h call, ih]
    cases hcall : g call with
    | none => rw [List.filterMap_cons_none hcall]; rfl
    | some b => rw [List.filterMap_cons_some hcall]; rfl

def Entry.addition? : Entry → Option (Origin × Record)
  | .record origin r => some (origin, r)
  | _ => none

def Journal.additions (j : Journal) : List (Origin × Record) := j.entries.filterMap Entry.addition?

theorem Journal.map_additions (j : Journal) : j.additions.map (·.2) = j.records := by
  have hentry : (fun e => (Entry.addition? e).map (·.2)) = Entry.record? := by
    funext e
    cases e <;> rfl
  rw [additions, List.map_filterMap, hentry, records]

def Call.addition? : Call → Option (Origin × Record)
  | .emit r => some (.own, r)
  | .add hook r => some (hook.origin, r)
  | _ => none

theorem Call.additions_perform (policy : WarningPolicy) (call : Call) :
    (call.perform policy).additions = call.addition?.toList := by
  cases call with
  | warning source problem =>
    unfold perform Journal.warning Journal.settle
    cases policy.treatment <;> rfl
  | _ => rfl

theorem additions_performCalls (policy : WarningPolicy) (calls : List Call) :
    (performCalls policy calls).additions = calls.filterMap Call.addition? :=
  filterMap_performCalls (Call.additions_perform policy) calls

theorem Hooks.cases_of_mem_link {hooks : Hooks} {before : List Call} {request : SupportLink}
    {call : Call} (h : call ∈ hooks.link before request) :
    (∃ problem, call = .error request.source problem) ∨
      (∃ accepted, call = .linked request accepted) ∨ ∃ r, call = .add .link r := by
  unfold Hooks.link at h
  cases hlinks : hooks.links with
  | none =>
    rw [hlinks] at h
    exact .inl ⟨_, List.mem_singleton.1 h⟩
  | some emitter =>
    rw [hlinks] at h
    obtain hmade | hrefused := List.mem_append.1 h
    · obtain rfl | hadded := List.mem_cons.1 hmade
      · exact .inr (.inl ⟨_, rfl⟩)
      · obtain ⟨r, -, rfl⟩ := List.mem_map.1 hadded
        exact .inr (.inr ⟨r, rfl⟩)
    · obtain ⟨problem, -, rfl⟩ := List.mem_map.1 hrefused
      exact .inl ⟨_, rfl⟩

section Members
variable {policy : WarningPolicy} {hooks : Hooks} {P : Call → Prop}

theorem callsOfAll_of_actions {actions : List Action}
    (h : ∀ a ∈ actions, ∀ before, ∀ call ∈ a.calls hooks before, P call) (before : List Call) :
    ∀ call ∈ callsOfAll hooks before actions, P call := by
  induction actions generalizing before with
  | nil => exact fun _ hcall => nomatch hcall
  | cons action rest ih =>
    rw [List.forall_mem_cons] at h
    exact List.forall_mem_append.2 ⟨h.1 before, ih h.2 _⟩

theorem Step.calls_of_actions {step : Step}
    (h : ∀ a ∈ step.actions, ∀ before, ∀ call ∈ a.calls hooks before, P call) (before : List Call) :
    ∀ call ∈ step.calls policy hooks before, P call := by
  cases step with
  | act action => exact h action List.mem_cons_self before
  | gate closed opened =>
    refine callsOfAll_of_actions (fun a ha => h a ?_) before
    split at ha
    · exact List.mem_append_left _ ha
    · exact List.mem_append_right _ ha

/-- What holds of all calls that the actions of a plan may come to holds of the calls of the plan. -/
theorem Plan.calls_of_actions {p : Plan}
    (h : ∀ a ∈ p.actions, ∀ before, ∀ call ∈ a.calls hooks before, P call) (before : List Call) :
    ∀ call ∈ Plan.calls policy hooks before p, P call := by
  induction p generalizing before with
  | nil => exact fun _ hcall => nomatch hcall
  | cons step rest ih =>
    refine List.forall_mem_append.2 ⟨step.calls_of_actions (fun a ha => h a ?_) before,
      ih (fun a ha => h a ?_) _⟩
    · exact List.mem_append_left _ ha
    · exact List.mem_append_right _ ha

end Members

section Setup

def ForeignPolicy.calls (policy : ForeignPolicy) (node : ForeignNode) : List HostCall :=
  match policy with
  | .reject => [.error node.source node.unhandled]
  | .accept => [.add (.reference node.reference)]
  | .warn => [.warning node.source node.unexpected]

def LinkEmitter.answer (emitter : LinkEmitter) (link : SupportLink) :
    List Record × Option Problem :=
  match emitter.emit link with
  | .ok record => ([.shortcut record], none)
  | .error refusal => ([], some refusal)

/-- Hooks that forget. -/
def Setup.hooks (setup : Setup) : Hooks where
  foreign _ := setup.foreign.calls
  links := setup.links.map fun emitter _ => emitter.answer

variable (setup : Setup) (before : List Call)

theorem Setup.performCalls_hand (node : ForeignNode) :
    performCalls setup.warnings (setup.hooks.hand before node) = setup.hand node := by
  unfold hand ForeignPolicy.handle
  change _ ++ performCalls _ ((setup.foreign.calls node).map HostCall.call) = _
  cases setup.foreign <;> exact congrArg _ (performCalls_singleton setup.warnings _)

theorem Setup.performCalls_link (link : SupportLink) :
    performCalls setup.warnings (setup.hooks.link before link) = setup.link link := by
  unfold Hooks.link Setup.link hooks
  cases setup.links with
  | none => exact performCalls_singleton setup.warnings _
  | some emitter =>
    dsimp only [Option.map_some]
    unfold LinkEmitter.answer
    cases emitter.emit link <;>
      exact congrArg (Journal.append _) (performCalls_singleton setup.warnings _)

theorem Action.performCalls_calls (action : Action) :
    performCalls setup.warnings (action.calls setup.hooks before) = action.perform setup := by
  cases action with
  | hand node => exact setup.performCalls_hand before node
  | requestLink link => exact setup.performCalls_link before link
  | _ => exact performCalls_singleton setup.warnings _

theorem performCalls_callsOfAll (actions : List Action) :
    performCalls setup.warnings (callsOfAll setup.hooks before actions) =
      performAll setup actions := by
  induction actions generalizing before with
  | nil => rfl
  | cons action rest ih =>
    rw [callsOfAll, performCalls_append, action.performCalls_calls, ih, performAll]

theorem Step.performCalls_calls (step : Step) :
    performCalls setup.warnings (step.calls setup.warnings setup.hooks before) =
      step.perform setup (performCalls setup.warnings before).failed := by
  cases step with
  | act action => exact action.performCalls_calls setup before
  | gate closed opened => exact performCalls_callsOfAll setup before _

theorem Plan.performCalls_calls (p : Plan) :
    performCalls setup.warnings (Plan.calls setup.warnings setup.hooks before p) =
      Plan.perform setup (performCalls setup.warnings before).failed p := by
  induction p generalizing before with
  | nil => rfl
  | cons step rest ih =>
    rw [Plan.calls, performCalls_append, step.performCalls_calls, ih, performCalls_append,
      Journal.failed_append, step.performCalls_calls, Plan.perform]

theorem Compilation.performCalls_calls (jobs : List Job) :
    performCalls setup.warnings (calls setup.warnings setup.hooks jobs) = run setup false jobs :=
  Plan.performCalls_calls setup [] _

end Setup

end GameRegistration
