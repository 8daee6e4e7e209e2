import GameRegistration.Proofs.Translation

/-! Rich saved games. An attribute brings all values of the saved game that it asks for, or nothing;
and nothing asked for is passed over in silence, but for an error that is known already. -/
namespace GameRegistration

/-- The attribute asks for this saved game, and all that belongs to it is known. -/
structure SavedGame.IsAsked (game : SavedGame) (context : Context) (parent : Element)
    (attr : Attribute) : Prop where
  parent_eq : parent.localName = "Extension"
  id_eq : (parent.attribute? "Id").map (·.value) = some game.extensionId
  name_eq : attr.localName = "IsRichSavedGame"
  value_eq : attr.value = "yes"
  progId_eq : context.get? "ProgId" = some game.progId
  componentId_eq : context.get? "ComponentId" = some game.componentId

structure SavedGame.IsDeclined (parent : Element) (attr : Attribute) : Prop where
  parent_eq : parent.localName = "Extension"
  id_isSome : (parent.attribute? "Id").isSome = true
  name_eq : attr.localName = "IsRichSavedGame"
  value_eq : attr.value = "no"

/-- The attribute brought all values of the saved game that it asks for, or nothing. An error tells why,
unless a saved game is declined or an error is known already. -/
structure SavedGame.AllOrNothing (failed : Bool) (context : Context) (parent : Element)
    (attr : Attribute) (j : Journal) : Prop where
  records_cases : j.records = [] ∨
    ∃ game : SavedGame, game.IsAsked context parent attr ∧ j.records.length = 4 ∧
      j.records = (game.values parent.source).map .registry
  records_ne_nil_iff : j.records ≠ [] ↔
    failed = false ∧ ∃ game : SavedGame, game.IsAsked context parent attr
  diagnostics_eq_nil_iff : j.diagnostics = [] ↔
    (∃ game : SavedGame, game.IsAsked context parent attr) ∨ IsDeclined parent attr
  diagnostics_cases : j.diagnostics = [] ∨
    ∃ problem, j.diagnostics = [⟨parent.source, .error, problem⟩]

theorem Element.attribute?_eq_of_filter {e e' : Element}
    (h : e.attributes.filter (·.name.space.isNone) = e'.attributes.filter (·.name.space.isNone))
    (localName : String) : e.attribute? localName = e'.attribute? localName := by
  have hview (e : Element) : e.attribute? localName =
      (e.attributes.filter (·.name.space.isNone)).find? (·.localName == localName) := by
    simp only [attribute?, List.find?_filter, Bool.decide_and, Bool.decide_eq_true]
  rw [hview, hview e', h]

theorem Element.attribute?_eq_of_perm {e e' : Element} {localName : String}
    (hperm : e.attributes.Perm e'.attributes)
    (hone : (e.attributes.filter fun a => a.name.space.isNone && a.localName == localName).length ≤ 1) :
    e.attribute? localName = e'.attribute? localName := by
  rw [attribute?, attribute?, ← List.head?_filter, ← List.head?_filter, filter_eq_of_perm hperm hone]

theorem AttributeValue.yesNo_cases (source : SourcePosition) (element : String) (a : Attribute) :
    (a.value = "yes" ∧ yesNo source element a = { value := .yes }) ∨
    (a.value = "no" ∧ yesNo source element a = { value := .no }) ∨
    (a.value ≠ "yes" ∧ a.value ≠ "no" ∧ ∃ problem,
      yesNo source element a = { value := .illegal, actions := [.error source problem] }) := by
  unfold yesNo text
  by_cases hyes : a.value = "yes"
  · exact .inl ⟨hyes, if_pos hyes⟩
  · rw [if_neg hyes]
    by_cases hno : a.value = "no"
    · exact .inr (.inl ⟨hno, if_pos hno⟩)
    · refine .inr (.inr ⟨hyes, hno, ?_⟩)
      rw [if_neg hno]
      by_cases hempty : a.value = ""
      · rw [if_pos hempty, if_pos hempty]
        exact ⟨_, rfl⟩
      · rw [if_neg hempty]
        exact ⟨_, rfl⟩

namespace Job
variable (setup : Setup) (failed : Bool) (context : Context) (parent : Element) (attr : Attribute)

theorem savedGame?_insert_extensionId_iff {context : Context} {id : String} {game : SavedGame} :
    savedGame? (context.insert Context.extensionId id) = some game ↔
      context.get? Context.progId = some game.progId ∧
        context.get? Context.componentId = some game.componentId ∧ id = game.extensionId := by
  have hprog : (context.insert Context.extensionId id).get? Context.progId =
      context.get? Context.progId := by
    rw [Context.get?_insert, if_neg (by decide)]
  have hcomponent : (context.insert Context.extensionId id).get? Context.componentId =
      context.get? Context.componentId := by
    rw [Context.get?_insert, if_neg (by decide)]
  have hextension : (context.insert Context.extensionId id).get? Context.extensionId = some id := by
    rw [Context.get?_insert, if_pos rfl]
  obtain ⟨progId, componentId, extensionId⟩ := game
  simp only [savedGame?, hprog, hcomponent, hextension, Option.bind_eq_bind, Option.bind_eq_some_iff,
    Option.pure_def, Option.some.injEq, SavedGame.mk.injEq]
  constructor
  · rintro ⟨_, hprog, _, hcomponent, _, rfl, rfl, rfl, rfl⟩
    exact ⟨hprog, hcomponent, rfl⟩
  · rintro ⟨hprog, hcomponent, rfl⟩
    exact ⟨_, hprog, _, hcomponent, _, rfl, rfl, rfl, rfl⟩

theorem attributeContext_of_id {parent : Element} (hparent : parent.localName = "Extension")
    {id : Attribute} (hid : parent.attribute? "Id" = some id) :
    attributeContext context parent = context.insert Context.extensionId id.value := by
  rw [attributeContext, if_pos hparent, hid]

theorem perform_registerPlan_cases {id : Attribute} (hparent : parent.localName = "Extension")
    (hid : parent.attribute? "Id" = some id) (hname : attr.localName = "IsRichSavedGame")
    (hyes : attr.value = "yes") :
    (∃ game : SavedGame, game.IsAsked context parent attr ∧
      Plan.perform setup failed (registerPlan (context.insert Context.extensionId id.value) parent) =
        performAll setup (if failed then [] else game.register parent.source)) ∨
    (¬ ∃ game : SavedGame, game.IsAsked context parent attr) ∧
      ∃ problem, Plan.perform setup failed
        (registerPlan (context.insert Context.extensionId id.value) parent) =
          Journal.error parent.source problem := by
  unfold registerPlan
  cases hgame : savedGame? (context.insert Context.extensionId id.value) with
  | some game =>
    obtain ⟨hprog, hcomponent, hextension⟩ := savedGame?_insert_extensionId_iff.1 hgame
    refine .inl ⟨game, ⟨hparent, ?_, hname, hyes, hprog, hcomponent⟩, Journal.append_empty _⟩
    rw [hid, ← hextension]
    rfl
  | none =>
    refine .inr ⟨fun ⟨game, hasked⟩ => ?_, _, rfl⟩
    have hextension := hasked.id_eq
    rw [hid] at hextension
    have hsome := savedGame?_insert_extensionId_iff.2
      ⟨hasked.progId_eq, hasked.componentId_eq, Option.some.inj hextension⟩
    rw [hgame] at hsome
    cases hsome

theorem perform_onAttribute_cases :
    (∃ game : SavedGame, game.IsAsked context parent attr ∧
      (onAttribute context parent attr).perform setup failed =
        performAll setup (if failed then [] else game.register parent.source)) ∨
    (SavedGame.IsDeclined parent attr ∧ (onAttribute context parent attr).perform setup failed = {}) ∨
    (¬ (∃ game : SavedGame, game.IsAsked context parent attr) ∧ ¬ SavedGame.IsDeclined parent attr ∧
      ∃ problem, (onAttribute context parent attr).perform setup failed =
        Journal.error parent.source problem) := by
  rw [perform, plan, attributePlan]
  by_cases hparent : parent.localName = "Extension"
  · rw [if_pos hparent]
    cases hid : parent.attribute? "Id" with
    | none =>
      refine .inr (.inr ⟨fun ⟨game, hasked⟩ => ?_, fun hdeclined => ?_, _, rfl⟩)
      · have hextension := hasked.id_eq
        rw [hid] at hextension
        cases hextension
      · have hsome := hdeclined.id_isSome
        rw [hid] at hsome
        cases hsome
    | some id =>
      rw [attributeContext_of_id context hparent hid, extensionPlan]
      by_cases hname : attr.localName = "IsRichSavedGame"
      · rw [if_pos hname]
        obtain ⟨hyes, hflag⟩ | ⟨hno, hflag⟩ | ⟨hyes, hno, problem, hflag⟩ :=
          AttributeValue.yesNo_cases parent.source parent.localName attr
        · rw [hflag]
          refine (perform_registerPlan_cases setup failed context parent attr hparent hid hname
            hyes).imp_right fun ⟨hasked, hproblem⟩ => .inr ⟨hasked, fun hdeclined => ?_, hproblem⟩
          rw [hdeclined.value_eq] at hyes
          exact absurd hyes (by decide)
        · rw [hflag]
          exact .inr (.inl ⟨⟨hparent, by rw [hid]; rfl, hname, hno⟩, rfl⟩)
        · rw [hflag]
          exact .inr (.inr ⟨fun ⟨_, h⟩ => hyes h.value_eq, fun h => hno h.value_eq, _, rfl⟩)
      · rw [if_neg hname]
        exact .inr (.inr ⟨fun ⟨_, h⟩ => hname h.name_eq, fun h => hname h.name_eq, _, rfl⟩)
  · rw [if_neg hparent]
    exact .inr (.inr ⟨fun ⟨_, h⟩ => hparent h.parent_eq, fun h => hparent h.parent_eq, _, rfl⟩)

theorem allOrNothing_onAttribute :
    SavedGame.AllOrNothing failed context parent attr
      ((onAttribute context parent attr).perform setup failed) := by
  obtain ⟨game, hasked, h⟩ | ⟨hdeclined, h⟩ | ⟨hasked, hdeclined, problem, h⟩ :=
    perform_onAttribute_cases setup failed context parent attr
  · rw [h]
    cases failed with
    | true =>
      exact ⟨.inl rfl, iff_of_false (· rfl) fun h => Bool.noConfusion h.1,
        iff_of_true rfl (.inl ⟨game, hasked⟩), .inl rfl⟩
    | false =>
      exact ⟨.inr ⟨game, hasked, rfl, rfl⟩, iff_of_true (List.cons_ne_nil _ _) ⟨rfl, game, hasked⟩,
        iff_of_true rfl (.inl ⟨game, hasked⟩), .inl rfl⟩
  · rw [h]
    have hnone : ¬ ∃ game : SavedGame, game.IsAsked context parent attr := by
      rintro ⟨game, hasked⟩
      exact absurd (hasked.value_eq.symm.trans hdeclined.value_eq) (by decide)
    exact ⟨.inl rfl, iff_of_false (· rfl) fun h => hnone h.2, iff_of_true rfl (.inr hdeclined),
      .inl rfl⟩
  · rw [h]
    exact ⟨.inl rfl, iff_of_false (· rfl) fun h => hasked h.2,
      iff_of_false (List.cons_ne_nil _ _) fun h => h.elim hasked hdeclined, .inr ⟨problem, rfl⟩⟩

theorem get?_attributeContext_of_ne {key : String} (h : key ≠ Context.extensionId) :
    (attributeContext context parent).get? key = context.get? key := by
  unfold attributeContext
  split
  · split
    · rw [Context.get?_insert, if_neg h]
    · rfl
  · rfl

theorem attributeContext_eq_self (h : parent.localName = "Extension" → parent.attribute? "Id" = none) :
    attributeContext context parent = context := by
  unfold attributeContext
  split
  next hparent => rw [h hparent]
  next => rfl

theorem onAttribute_congr {attributes : List Attribute}
    (hid : parent.attribute? "Id" = ({ parent with attributes } : Element).attribute? "Id") :
    (onAttribute context parent attr).perform setup failed =
        (onAttribute context { parent with attributes } attr).perform setup failed ∧
      (onAttribute context parent attr).contextAfter =
        (onAttribute context { parent with attributes } attr).contextAfter := by
  simp only [perform, plan, attributePlan, contextAfter, attributeContext, hid]
  exact ⟨rfl, rfl⟩

/-- What comes of any attribute in any state: the whole registration or none of it. The context gets the
`Id` of an extension, whatever else is wrong. Neither depends on attributes of other namespaces,
nor on where an `Id` stands that is the only one. -/
theorem savedGame_onAttribute :
    SavedGame.AllOrNothing failed context parent attr
        ((onAttribute context parent attr).perform setup failed) ∧
      (∀ key, key ≠ "ExtensionId" →
        (onAttribute context parent attr).contextAfter.get? key = context.get? key) ∧
      (∀ id, parent.localName = "Extension" → parent.attribute? "Id" = some id →
        (onAttribute context parent attr).contextAfter.get? "ExtensionId" = some id.value) ∧
      ((parent.localName = "Extension" → parent.attribute? "Id" = none) →
        (onAttribute context parent attr).contextAfter = context) ∧
      ∀ attributes : List Attribute,
        (parent.attributes.filter (·.name.space.isNone) = attributes.filter (·.name.space.isNone) ∨
          parent.attributes.Perm attributes ∧ (parent.attributes.filter fun a =>
            a.name.space.isNone && a.localName == "Id").length ≤ 1) →
        (onAttribute context parent attr).perform setup failed =
            (onAttribute context { parent with attributes } attr).perform setup failed ∧
          (onAttribute context parent attr).contextAfter =
            (onAttribute context { parent with attributes } attr).contextAfter := by
  refine ⟨allOrNothing_onAttribute setup failed context parent attr,
    fun _ => get?_attributeContext_of_ne context parent, fun id hparent hid => ?_,
    attributeContext_eq_self context parent, fun attributes h => ?_⟩
  · rw [contextAfter, attributeContext_of_id context hparent hid]
    exact (Context.get?_insert ..).trans (if_pos rfl)
  · refine onAttribute_congr setup failed context parent attr ?_
    obtain hfilter | ⟨hperm, hone⟩ := h
    · exact Element.attribute?_eq_of_filter hfilter "Id"
    · exact Element.attribute?_eq_of_perm hperm hone

end Job

namespace Sample

def savedGameContext : Context where
  entries := [("ProgId", "Save.1"), ("ComponentId", "GameComp"), ("ExtensionId", "old")]

def extensionId : Attribute where
  name := { localName := "Id" }
  value := "sav"

def foreignId : Attribute where
  name := { rawSpace := some "urn:other", localName := "Id" }
  value := "other"

def savedGameExtension : Element where
  name := { localName := "Extension" }
  attributes := [extensionId]

def savedGameFlag : Attribute where
  name := { rawSpace := some gamingSpace, localName := "IsRichSavedGame" }
  value := "yes"

theorem isAsked_savedGameFlag : SavedGame.IsAsked
    { progId := "Save.1", componentId := "GameComp", extensionId := "sav" } savedGameContext
    savedGameExtension savedGameFlag :=
  ⟨rfl, rfl, rfl, rfl, rfl, rfl⟩

end Sample

/-- An `Id` of another namespace in front of the own one changes nothing. -/
theorem Job.savedGame_savedGameFlag :
    ((onAttribute Sample.savedGameContext Sample.savedGameExtension Sample.savedGameFlag).perform {}
      false).records ≠ [] ∧
    (onAttribute Sample.savedGameContext Sample.savedGameExtension
      Sample.savedGameFlag).contextAfter.get? "ExtensionId" = some "sav" ∧
    (onAttribute Sample.savedGameContext Sample.savedGameExtension Sample.savedGameFlag).perform {}
        false =
      (onAttribute Sample.savedGameContext
        { Sample.savedGameExtension with attributes := [Sample.foreignId, Sample.extensionId] }
        Sample.savedGameFlag).perform {} false := by
  obtain ⟨hall, -, hcontext, -, hparent⟩ := savedGame_onAttribute {} false Sample.savedGameContext
    Sample.savedGameExtension Sample.savedGameFlag
  exact ⟨hall.records_ne_nil_iff.2 ⟨rfl, _, Sample.isAsked_savedGameFlag⟩,
    hcontext Sample.extensionId rfl rfl,
    (hparent [Sample.foreignId, Sample.extensionId] (.inl (by decide))).1⟩

end GameRegistration
