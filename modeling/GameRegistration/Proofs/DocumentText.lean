import GameRegistration.Proofs.SectionText
import GameRegistration.Proofs.JsonNesting

/-! Documents as texts. A written document reads back as itself while it is within the limit on
nesting, and what was read from a text never is beyond it. -/
namespace GameRegistration

open Json

namespace Element

def slots (mode : Mode) : Slots (Option QualifiedName × Option SourcePosition ×
    Option (List Attribute) × Option (List Element) × Unit) :=
  .required "name" (QualifiedName.decode mode) <|
    .optional "source_line" (SourcePosition.decode mode) <|
    .optional "attributes" (Reading.asList mode Attribute.decode) <|
    .optional "children" (decodeChildren mode) .nil

namespace Parts

def toSlots (p : Parts) : Option QualifiedName × Option SourcePosition ×
    Option (List Attribute) × Option (List Element) × Unit :=
  (p.name, p.source, p.attributes, p.children, ())

def ofSlots : Option QualifiedName × Option SourcePosition ×
    Option (List Attribute) × Option (List Element) × Unit → Parts :=
  fun (name, source, attributes, children, ()) => { name, source, attributes, children }

end Parts

def stepParts (mode : Mode) (p : Parts) (key : String) (value : Reading) : Result Parts :=
  if key = "children" then do
    Parts.fresh "children" p.children
    return { p with children := some (← decodeChildren mode value) }
  else p.put mode key value

theorem decodeMembers_member (mode : Mode) (p : Parts) (key : String) (value : Reading)
    (rest : Members) :
    decodeMembers mode p (.member (some key) value rest) =
      stepParts mode p key value >>= fun p => decodeMembers mode p rest := by
  rw [decodeMembers, stepParts]
  by_cases hkey : key = "children"
  · rw [if_pos hkey, if_pos hkey]
    cases Parts.fresh "children" p.children <;> cases decodeChildren mode value <;> rfl
  · rw [if_neg hkey, if_neg hkey]

theorem step_slots (mode : Mode) (p : Parts) (key : String) (value : Reading) :
    (slots mode).step p.toSlots key value = (stepParts mode p key value).map Parts.toSlots := by
  obtain ⟨name, source, attributes, children⟩ := p
  unfold slots Slots.required Slots.optional Parts.toSlots stepParts Parts.put
  by_cases hname : key = "name"
  · subst hname
    rw [Slots.step_field_self]
    cases name <;> cases QualifiedName.decode mode value <;> rfl
  rw [Slots.step_field_of_ne hname]
  by_cases hsource : key = "source_line"
  · subst hsource
    rw [Slots.step_field_self]
    cases source <;> cases SourcePosition.decode mode value <;> rfl
  rw [Slots.step_field_of_ne hsource]
  by_cases hattributes : key = "attributes"
  · subst hattributes
    rw [Slots.step_field_self]
    cases attributes <;> cases value.asList mode Attribute.decode <;> rfl
  rw [Slots.step_field_of_ne hattributes]
  by_cases hchildren : key = "children"
  · subst hchildren
    rw [Slots.step_field_self]
    cases children <;> cases decodeChildren mode value <;> rfl
  rw [Slots.step_field_of_ne hchildren, if_neg hchildren, if_neg hname, if_neg hsource,
    if_neg hattributes]
  cases hskip : value.skip <;> simp [Slots.step, Slots.nil, hskip] <;> rfl

theorem fill_slots (mode : Mode) : ∀ (members : Members) (p : Parts),
    (slots mode).fill p.toSlots members = (decodeMembers mode p members).map Parts.toSlots
  | .close, _ => rfl
  | .broken, _ => rfl
  | .member none _ _, _ => rfl
  | .member (some key) value rest, p => by
    rw [Slots.fill_member, decodeMembers_member, step_slots]
    cases stepParts mode p key value with
    | error fault => rfl
    | ok p => exact fill_slots mode rest p

theorem decodeItems_eq (mode : Mode) (items : Items) :
    decodeItems mode items =
      (slots mode).fromItems mode.surplus items >>= fun s => (Parts.ofSlots s).build := by
  unfold slots Slots.required Slots.optional
  -- The array may end before any field, so the cases go along it, field by field.
  cases items with
  | close => rfl
  | broken => rfl
  | item name rest =>
  rw [decodeItems, Slots.fromItems_item]
  cases QualifiedName.decode mode name with
  | error fault => rfl
  | ok name =>
  cases rest with
  | close => rfl
  | broken => rfl
  | item source rest =>
  rw [Slots.fromItems_item]
  simp only [bind, Except.bind]
  cases SourcePosition.decode mode source with
  | error fault => rfl
  | ok source =>
  cases rest with
  | close => rfl
  | broken => rfl
  | item attributes rest =>
  rw [Slots.fromItems_item]
  simp only [bind, Except.bind]
  cases attributes.asList mode Attribute.decode with
  | error fault => rfl
  | ok attributes =>
  cases rest with
  | close => rfl
  | broken => rfl
  | item children rest =>
  rw [Slots.fromItems_item]
  simp only [bind, Except.bind]
  cases decodeChildren mode children with
  | error fault => rfl
  | ok children => cases rest <;> rfl

theorem decode_eq_asStructure (mode : Mode) (r : Reading) :
    decode mode r = r.asStructure mode slots fun s => (Parts.ofSlots s).build := by
  cases r with
  | object members =>
    rw [decode, Reading.asStructure]
    cases mode.enter with
    | error fault => rfl
    | ok inner =>
      change decodeMembers inner {} members >>= Parts.build =
        (slots inner).fill (Parts.toSlots {}) members >>= _
      rw [fill_slots]
      cases decodeMembers inner {} members <;> rfl
  | array items =>
    rw [decode, Reading.asStructure]
    cases mode.enter with
    | error fault => rfl
    | ok inner => exact decodeItems_eq inner items
  | _ => rfl

theorem decodeList_eq (mode : Mode) : ∀ items : Items,
    decodeList mode items = items.decode (decode mode)
  | .close => rfl
  | .broken => rfl
  | .item value rest => by rw [decodeList, Items.decode, decodeList_eq mode rest]

theorem decodeChildren_eq (mode : Mode) (r : Reading) :
    decodeChildren mode r = r.asList mode decode := by
  cases r with
  | array items =>
    rw [decodeChildren, Reading.asList]
    simp only [decodeList_eq]
  | _ => rfl

theorem toJsonList_eq (es : List Element) : toJsonList es = es.map toJson := by
  induction es with
  | nil => rfl
  | cons e rest ih => rw [toJsonList, ih, List.map_cons]

end Element

/-! Written documents -/

theorem QualifiedName.decode_toJson (n : QualifiedName) (room : Nat) :
    decode (.streaming room) (Reading.ofJson n.toJson) =
      bounded (Reading.ofJson n.toJson).depth room n := by
  obtain ⟨space, localName⟩ := n
  cases space with
  | none =>
    exact Reading.asStructure_ofJson_bounded
      (fun _ => .lacking (by simp) <| .leaf rfl rfl (by simp) .nil) rfl
  | some space =>
    exact Reading.asStructure_ofJson_bounded
      (fun _ => .leaf rfl rfl (by simp) <| .leaf rfl rfl (by simp) .nil) rfl

theorem SourcePosition.decode_toJson_bounded (p : SourcePosition) (room : Nat) :
    decode (.streaming room) (Reading.ofJson p.toJson) =
      bounded (Reading.ofJson p.toJson).depth room p := by
  obtain ⟨file, line⟩ := p
  cases line with
  | none =>
    exact Reading.asStructure_ofJson_bounded
      (fun _ => .leaf rfl rfl (by simp) <| .lacking (by simp) .nil) rfl
  | some line =>
    exact Reading.asStructure_ofJson_bounded
      (fun _ => .leaf rfl rfl (by simp) <|
        .leaf (Reading.asWordOption_ofJson line) rfl (by simp) .nil) rfl

theorem Attribute.decode_toJson (a : Attribute) (room : Nat) :
    decode (.streaming room) (Reading.ofJson a.toJson) =
      bounded (Reading.ofJson a.toJson).depth room a :=
  Reading.asStructure_ofJson_bounded
    (fun inner => .field (a.name.decode_toJson inner) (by simp) <| .leaf rfl rfl (by simp) .nil) rfl

namespace Element

@[elab_as_elim]
theorem induction {P : Element → Prop} (step : ∀ e, (∀ c ∈ e.children, P c) → P e) (e : Element) :
    P e :=
  step e fun c _ => induction step c
termination_by sizeOf e
decreasing_by
  rename_i hc
  obtain ⟨name, source, attributes, children⟩ := e
  have hsize : sizeOf c < sizeOf children := List.sizeOf_lt_of_mem hc
  simp only [Element.mk.sizeOf_spec]
  omega

theorem decode_toJson (e : Element) (room : Nat) :
    decode (.streaming room) (Reading.ofJson e.toJson) =
      bounded (Reading.ofJson e.toJson).depth room e := by
  induction e using induction generalizing room with
  | step e ih =>
    obtain ⟨name, source, attributes, children⟩ := e
    rw [decode_eq_asStructure, toJson, toJsonList_eq]
    refine Reading.asStructure_ofJson_bounded (fun inner =>
      .field (name.decode_toJson inner) (by simp) <|
      .field (source.decode_toJson_bounded inner) (by simp) <|
      .field (Reading.asList_ofJson_bounded fun inner a _ => a.decode_toJson inner) (by simp) <|
      .field ?_ (by simp) .nil) rfl
    rw [decodeChildren_eq]
    exact Reading.asList_ofJson_bounded fun inner c hc => ih c hc inner

end Element

/-! Nesting of documents -/

theorem QualifiedName.depth_toJson (n : QualifiedName) : (Reading.ofJson n.toJson).depth = 1 := by
  obtain ⟨space, localName⟩ := n
  cases space <;> rfl

theorem SourcePosition.depth_toJson (p : SourcePosition) : (Reading.ofJson p.toJson).depth = 1 := by
  obtain ⟨file, line⟩ := p
  cases line <;> rfl

theorem Attribute.depth_toJson (a : Attribute) : (Reading.ofJson a.toJson).depth = 2 := by
  have hname := a.name.depth_toJson
  simp [toJson, Reading.ofJson, Members.ofList, Reading.depth, Members.depth, hname]

namespace Element

/-- An element nests two deep by itself and four if it has attributes; children stand two deeper. -/
theorem depth_toJson_le_iff (e : Element) (room : Nat) :
    (Reading.ofJson e.toJson).depth ≤ room ↔
      2 ≤ room ∧ (e.attributes ≠ [] → 4 ≤ room) ∧
        ∀ c ∈ e.children, (Reading.ofJson c.toJson).depth + 2 ≤ room := by
  obtain ⟨name, source, attributes, children⟩ := e
  have hname := name.depth_toJson
  have hsource := source.depth_toJson
  have hattributes (room : Nat) : (Items.ofList (attributes.map Attribute.toJson)).depth ≤ room ↔
      (attributes ≠ [] → 2 ≤ room) := by
    rw [Items.depth_ofList_le_iff]
    simp only [Attribute.depth_toJson]
    cases attributes with
    | nil => simp
    | cons a rest => simpa using fun h _ _ => h
  have hchildren (room : Nat) : (Items.ofList (children.map toJson)).depth ≤ room ↔
      ∀ c ∈ children, (Reading.ofJson c.toJson).depth ≤ room := Items.depth_ofList_le_iff
  simp only [toJson, toJsonList_eq, Reading.ofJson, Members.ofList, Reading.depth, Members.depth,
    hname, hsource]
  constructor
  · intro h
    refine ⟨by omega, fun hsome => ?_, fun c hc => ?_⟩
    · have hroom := (hattributes (room - 2)).1 (by omega) hsome
      omega
    · have hroom := (hchildren (room - 2)).1 (by omega) c hc
      omega
  · rintro ⟨htwo, hfour, hlater⟩
    have hfirst : (Items.ofList (attributes.map Attribute.toJson)).depth ≤ room - 2 := by
      refine (hattributes _).2 fun hsome => ?_
      have hroom := hfour hsome
      omega
    have hsecond : (Items.ofList (children.map toJson)).depth ≤ room - 2 := by
      refine (hchildren _).2 fun c hc => ?_
      have hroom := hlater c hc
      omega
    omega

end Element

/-! What was decoded had room -/

theorem Attribute.keeps_slots (mode : Mode) : (slots mode).Keeps fun s =>
    (∀ n, s.1 = some n → ∃ inner, mode.enter = .ok inner) ∧ (∀ v, s.2.1 = some v → True) ∧ True :=
  .field Reading.enter_of_asStructure <| .field (fun _ => trivial) .nil

theorem Attribute.two_le_of_decode {room : Nat} {value : Reading} {a : Attribute}
    (h : decode (.streaming room) value = .ok a) : 2 ≤ room := by
  obtain ⟨inner, s, hinner, ⟨hname, -⟩, hbuild⟩ := Reading.asStructure_keeps keeps_slots h
  obtain ⟨name, hdemand, -⟩ := bind_eq_ok_iff.1 hbuild
  obtain ⟨left, rfl, rfl⟩ := Mode.enter_eq_ok_iff.1 hinner
  obtain ⟨deeper, hdeeper⟩ := hname name (demand_eq_ok_iff.1 hdemand)
  obtain ⟨last, rfl, -⟩ := Mode.enter_eq_ok_iff.1 hdeeper
  omega

namespace Element

theorem keeps_slots (mode : Mode) : (slots mode).Keeps fun s =>
    (∀ n, s.1 = some n → ∃ inner, mode.enter = .ok inner) ∧
    (∀ p, s.2.1 = some p → True) ∧
    (∀ as, s.2.2.1 = some as → ∃ inner, mode.enter = .ok inner ∧
      ∀ a ∈ as, ∃ value, Attribute.decode inner value = .ok a) ∧
    (∀ es, s.2.2.2.1 = some es → ∃ inner, mode.enter = .ok inner ∧
      ∀ e ∈ es, ∃ value, decode inner value = .ok e) ∧ True := by
  refine .field Reading.enter_of_asStructure <| .field (fun _ => trivial) <|
    .field Reading.asList_keeps <| .field (fun h => ?_) .nil
  rw [decodeChildren_eq] at h
  exact Reading.asList_keeps h

theorem depth_le_of_decode {e : Element} {room : Nat} {r : Reading}
    (h : decode (.streaming room) r = .ok e) : (Reading.ofJson e.toJson).depth ≤ room := by
  induction e using induction generalizing room r with
  | step e ih =>
    rw [decode_eq_asStructure] at h
    obtain ⟨inner, ⟨_, source, attributes, children, _⟩, hinner, ⟨hname, -, hattributes, hchildren, -⟩,
      hbuild⟩ := Reading.asStructure_keeps keeps_slots h
    obtain ⟨name, hdemand, he⟩ := bind_eq_ok_iff.1 hbuild
    obtain ⟨left, rfl, rfl⟩ := Mode.enter_eq_ok_iff.1 hinner
    obtain ⟨deeper, hdeeper⟩ := hname name (demand_eq_ok_iff.1 hdemand)
    obtain ⟨last, rfl, -⟩ := Mode.enter_eq_ok_iff.1 hdeeper
    cases he
    rw [depth_toJson_le_iff]
    refine ⟨by omega, fun hsome => ?_, fun c hc => ?_⟩
    · obtain ⟨a, ha⟩ := List.exists_mem_of_ne_nil _ hsome
      obtain _ | attributes := attributes
      · cases ha
      obtain ⟨level, hlevel, hread⟩ := hattributes attributes rfl
      obtain ⟨value, hvalue⟩ := hread a ha
      obtain ⟨deepest, hdeepest, rfl⟩ := Mode.enter_eq_ok_iff.1 hlevel
      have hroom := Attribute.two_le_of_decode hvalue
      omega
    · obtain _ | children := children
      · cases hc
      obtain ⟨level, hlevel, hread⟩ := hchildren children rfl
      obtain ⟨value, hvalue⟩ := hread c hc
      obtain ⟨deepest, hdeepest, rfl⟩ := Mode.enter_eq_ok_iff.1 hlevel
      have hroom := ih c hc hvalue
      omega

/-! Texts of documents -/

section Text
variable (e : Element) (pretty : Bool)

theorem ofText_render : ofText (e.toJson.render pretty) =
    bounded (nesting (e.toJson.render pretty)) Mode.maxNesting e := by
  have hdecode := e.decode_toJson Mode.maxNesting
  rw [ofText, decodeText, nesting, read_render_alone]
  simp only [Mode.start, hdecode, bounded]
  split <;> rfl

theorem nesting_render_of_ofText {text : String} (h : ofText text = .ok e) :
    nesting (e.toJson.render pretty) ≤ Mode.maxNesting := by
  rw [nesting, read_render_alone]
  exact depth_le_of_decode (decodeText_eq_ok_iff.1 h).1

/-- A document reads back as itself from both of its written forms unless one of them nests too deep,
and that is a malformed text. What was read from any text, with whatever fields left out, is written
within the limit and reads back. -/
theorem ofText_render_eq :
    ofText (e.toJson.render pretty) =
        (if nesting (e.toJson.render pretty) ≤ 127 then .ok e else .error .malformed) ∧
      ∀ text, ofText text = .ok e → ofText (e.toJson.render pretty) = .ok e := by
  refine ⟨e.ofText_render pretty, fun text htext => ?_⟩
  rw [ofText_render, bounded_of_le (e.nesting_render_of_ofText pretty htext)]

/-- All but the name may be left out, and an unknown member is passed over. -/
example : ((ofText "\x7b\"note\":[1e3],\"name\":\x7b\"local_name\":\"Game\"\x7d\x7d").toOption.map
    fun e => (e.name.localName, e.source, e.attributes, e.children.length)) =
      some ("Game", {}, [], 0) := by
  decide +kernel

end Text

end Element

end GameRegistration
