import GameRegistration.Proofs.GameRecords

/-! Views of a translation: what one kind of record comes to. References apart, a game consists of
its roots, of its tasks with their ordinals, and of its own record. -/
namespace GameRegistration

/-- A task among the children of a game, with its ordinal. -/
structure NumberedTask where
  element : Element
  kind : TaskKind
  ordinal : UInt32

namespace Game

abbrev Taskless (children : List Element) : Prop :=
  taskCount .play children = 0 ∧ taskCount .support children = 0

theorem taskless_append_iff {a b : List Element} : Taskless (a ++ b) ↔ Taskless a ∧ Taskless b := by
  simp only [Taskless, Progress.taskCount_append]
  omega

theorem taskless_singleton_iff {c : Element} :
    Taskless [c] ↔ ∀ kind, childRole c ≠ .task kind := by
  constructor
  · rintro ⟨hplay, hsupport⟩ kind hrole
    cases kind <;> simp [taskCount, hrole] at hplay hsupport
  · intro h
    exact ⟨taskCount_cons_of_ne [] (h .play), taskCount_cons_of_ne [] (h .support)⟩

/-- The tasks among the children behind those in `before`. -/
def tasksAfter (before : List Element) : List Element → List NumberedTask
  | [] => []
  | c :: rest =>
    match childRole c with
    | .task kind => ⟨c, kind, .ofNat (taskCount kind before)⟩ :: tasksAfter (before ++ [c]) rest
    | .foreign | .unexpected => tasksAfter (before ++ [c]) rest

def tasks (game : Element) : List NumberedTask := tasksAfter [] game.children

end Game

namespace Translation
variable {β : Type} {f : Record → Option β} (policy : ForeignPolicy) (file : FileContext)
  (guid : String) (game : Element)

theorem filterMap_references (hreference : ∀ r, f (.reference r) = none)
    (nodes : List ForeignNode) : (policy.records nodes).filterMap f = [] := by
  rw [List.filterMap_eq_nil_iff]
  intro r hr
  cases policy with
  | accept =>
    obtain ⟨node, -, rfl⟩ := List.mem_map.1 hr
    exact hreference _
  | reject => cases hr
  | warn => cases hr

theorem filterMap_children (hreference : ∀ r, f (.reference r) = none) (before rest : List Element) :
    (rest.mapIdx fun i c => child policy file guid game
        ((before ++ rest).take (before.length + i)) c).flatten.filterMap f =
      (if Game.Taskless before ∧ ¬ Game.Taskless rest then
        (roots game.source guid file.componentId).filterMap f else []) ++
      (Game.tasksAfter before rest).flatMap fun t =>
        (task file (executable file game) t.element t.kind t.ordinal).filterMap f := by
  -- `before` grows with the walk, and the roots come as long as no task is in it.
  induction rest generalizing before with
  | nil => simp [Game.tasksAfter, Game.taskCount]
  | cons c rest ih =>
    have hbefore : Game.Taskless (before ++ [c]) ↔ Game.Taskless before ∧ Game.Taskless [c] :=
      Game.taskless_append_iff
    have hrest : Game.Taskless (c :: rest) ↔ Game.Taskless [c] ∧ Game.Taskless rest :=
      Game.taskless_append_iff (a := [c])
    rw [mapIdx_take_cons (child policy file guid game), List.flatten_cons, List.filterMap_append,
      ih (before ++ [c]), Game.tasksAfter, child]
    cases hrole : Game.childRole c with
    | task kind =>
      have hc : ¬ Game.Taskless [c] := fun h => Game.taskless_singleton_iff.1 h kind hrole
      have hafter : ¬ (Game.Taskless (before ++ [c]) ∧ ¬ Game.Taskless rest) :=
        fun h => hc (hbefore.1 h.1).2
      have hlater : ¬ Game.Taskless (c :: rest) := fun h => hc (hrest.1 h).1
      dsimp only
      rw [if_neg hafter]
      by_cases hfirst : Game.Taskless before
      · rw [if_pos hfirst, if_pos (And.intro hfirst hlater)]
        simp [filterMap_references policy hreference]
      · rw [if_neg hfirst, if_neg fun h : Game.Taskless before ∧ _ => hfirst h.1]
        simp [filterMap_references policy hreference]
    | _ =>
      have hc : Game.Taskless [c] := Game.taskless_singleton_iff.2 (by simp [hrole])
      have hafter : Game.Taskless (before ++ [c]) ↔ Game.Taskless before :=
        hbefore.trans (and_iff_left hc)
      have hlater : Game.Taskless (c :: rest) ↔ Game.Taskless rest := hrest.trans (and_iff_right hc)
      simp only [hafter, hlater, filterMap_references policy hreference, List.filterMap_nil,
        List.nil_append]

theorem filterMap_game (hreference : ∀ r, f (.reference r) = none) :
    (Translation.game policy file guid game).filterMap f =
      (if Game.Taskless game.children then [] else
        (roots game.source guid file.componentId).filterMap f) ++
      ((Game.tasks game).flatMap fun t =>
        (task file (executable file game) t.element t.kind t.ordinal).filterMap f) ++
      (f (.game { source := game.source, instanceId := guid
                  fileRef := definition file game })).toList := by
  have hchildren := filterMap_children policy file guid game hreference [] game.children
  have hreferences : (([definition file game, executable file game].filter
      (· != file.fileId)).map (reference game "File")).filterMap f = [] := by
    rw [List.filterMap_eq_nil_iff]
    intro r hr
    obtain ⟨_, -, rfl⟩ := List.mem_map.1 hr
    exact hreference _
  have hends (g : GameRecord) : [.game g, reference game "CustomAction" "WixSchedGameExplorer"].filterMap
      f = (f (.game g)).toList := by
    rw [List.filterMap_cons, List.filterMap_cons, reference, hreference]
    cases f (.game g) <;> rfl
  simp only [List.nil_append, List.length_nil, Nat.zero_add] at hchildren
  rw [Translation.game, List.filterMap_append, List.filterMap_append, List.filterMap_append,
    filterMap_references policy hreference, hchildren, hreferences, hends, List.nil_append,
    List.append_nil, Game.tasks]
  by_cases htaskless : Game.Taskless game.children
  · simp [htaskless]
  · simp [htaskless, Game.taskCount]

theorem games_game :
    (Translation.game policy file guid game).filterMap Record.game? =
      [{ source := game.source, instanceId := guid, fileRef := definition file game }] := by
  have htasks : ((Game.tasks game).flatMap fun t => (task file (executable file game) t.element t.kind
      t.ordinal).filterMap Record.game?) = [] := List.flatMap_eq_nil_iff.2 fun _ _ => rfl
  rw [filterMap_game policy file guid game fun _ => rfl, htasks]
  split <;> rfl

end Translation

end GameRegistration
