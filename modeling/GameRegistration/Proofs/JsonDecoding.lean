import GameRegistration.Json.Decode
import GameRegistration.Proofs.JsonText

/-! Decoding what was written. A decoder that takes the JSON of every value back to the value gives
such decoders for lists, for structures with the value in a field, and for tagged values. -/
namespace GameRegistration.Json

theorem Mode.enter_streaming (room : Nat) :
    (Mode.streaming (room + 1)).enter = .ok (.streaming room) := rfl

theorem bind_eq_ok_iff {α β : Type} {x : Result α} {f : α → Result β} {b : β} :
    x >>= f = .ok b ↔ ∃ a, x = .ok a ∧ f a = .ok b := by
  cases x <;> simp [bind, Except.bind]

/-! Texts, numbers and names -/

namespace Reading

@[simp] theorem asText_ofJson (s : String) : (ofJson (.text s)).asText = .ok s := rfl

theorem asTextOption_ofJson (s : Option String) :
    (ofJson (ofTextOption s)).asTextOption = .ok s := by
  cases s <;> rfl

theorem asWord_ofJson (n : UInt32) : (ofJson (.number n.toNat)).asWord = .ok n := by
  have hlimit : n.toNat < Nat.pow 2 32 := n.toNat_lt
  have hnumber : Number.ofNat n.toNat = .natural n.toNat :=
    Number.ofNat_of_lt (Nat.lt_trans n.toNat_lt (by decide))
  simp [ofJson, hnumber, asWord, hlimit]

theorem asWordOption_ofJson (n : UInt32) : (ofJson (.number n.toNat)).asWordOption = .ok (some n) := by
  have hsome : (ofJson (.number n.toNat)).asWordOption = some <$> (ofJson (.number n.toNat)).asWord :=
    rfl
  rw [hsome, asWord_ofJson]
  rfl

@[simp] theorem isSound_text (room : Nat) (s : String) : (ofJson (.text s)).isSound room = true := rfl

@[simp] theorem isSound_textOption (room : Nat) (s : Option String) :
    (ofJson (ofTextOption s)).isSound room = true := by
  cases s <;> rfl

theorem isSound_number (room : Nat) {n : Nat} (h : n < Nat.pow 2 64) :
    (ofJson (.number n)).isSound room = true := by
  rw [ofJson, Number.ofNat_of_lt h]
  rfl

theorem asVariant_ofJson {names : List String} {name : String} (h : name ∈ names) :
    (ofJson (.text name)).asVariant names = .ok name := by
  simp [asVariant, h, pure, Except.pure, bind, Except.bind]

end Reading

/-! Lists -/

section List
variable {α : Type} {decode : Reading → Result α} {toJson : α → Json} {xs : List α}

theorem Items.decode_ofList (h : ∀ x ∈ xs, decode (Reading.ofJson (toJson x)) = .ok x) :
    (Items.ofList (xs.map toJson)).decode decode = .ok xs := by
  induction xs with
  | nil => rfl
  | cons x xs ih =>
    obtain ⟨hx, hxs⟩ := List.forall_mem_cons.1 h
    rw [List.map_cons, Items.ofList, Items.decode, hx, ih hxs]
    rfl

theorem Reading.asList_ofJson {mode inner : Mode} {decode : Mode → Reading → Result α}
    (hmode : mode.enter = .ok inner)
    (h : ∀ x ∈ xs, decode inner (Reading.ofJson (toJson x)) = .ok x) :
    (Reading.ofJson (.array (xs.map toJson))).asList mode decode = .ok xs := by
  rw [Reading.ofJson, Reading.asList, hmode]
  exact Items.decode_ofList h

end List

/-! Structures -/

namespace Slots

variable {α σ : Type} {name : String} {mayLack : Bool} {decode : Reading → Result α} {rest : Slots σ}
  {members : List (String × Json)}

theorem empty_field : (rest.field name mayLack decode).empty = (none, rest.empty) := rfl

def step (slots : Slots σ) (s : σ) (key : String) (value : Reading) : Result σ :=
  match slots.put s key with
  | some put => put value
  | none => do
    value.skip
    return s

theorem fill_member (slots : Slots σ) (s : σ) (key : String) (value : Reading) (rest : Members) :
    slots.fill s (.member (some key) value rest) =
      slots.step s key value >>= fun s => slots.fill s rest := by
  rw [fill, step]
  cases slots.put s key with
  | some put => rfl
  | none => cases value.skip <;> rfl

theorem step_field_self (found : Option α) (s : σ) (value : Reading) :
    (rest.field name mayLack decode).step (found, s) name value =
      if found.isSome then .error (.duplicateField name)
      else (decode value).map fun a => (some a, s) := by
  have hput : (rest.field name mayLack decode).put (found, s) name =
      some fun value =>
        if found.isSome then .error (.duplicateField name)
        else do return (some (← decode value), s) :=
    if_pos rfl
  rw [step, hput]
  rfl

theorem step_field_of_ne {key : String} (hne : key ≠ name) (found : Option α) (s : σ)
    (value : Reading) :
    (rest.field name mayLack decode).step (found, s) key value =
      (rest.step s key value).map fun s => (found, s) := by
  have hput : (rest.field name mayLack decode).put (found, s) key =
      (rest.put s key).map fun put value => do return (found, ← put value) :=
    if_neg hne
  rw [step, step, hput]
  cases rest.put s key with
  | some put => rfl
  | none => cases value.skip <;> rfl

/-- The slots hold these values once the members are in. -/
def IsFilledBy (slots : Slots σ) (members : List (String × Json)) (s : σ) : Prop :=
  slots.fill slots.empty (Members.ofList members) = .ok s

theorem fill_field_of_not_mem (hnew : name ∉ members.map Prod.fst) (found : Option α) (s : σ) :
    (rest.field name mayLack decode).fill (found, s) (Members.ofList members) =
      (rest.fill s (Members.ofList members)).map fun s => (found, s) := by
  induction members generalizing s with
  | nil => rfl
  | cons m members ih =>
    obtain ⟨key, value⟩ := m
    rw [List.map_cons, List.mem_cons, not_or] at hnew
    rw [Members.ofList, fill_member, fill_member, step_field_of_ne (Ne.symm hnew.1)]
    cases rest.step s key (Reading.ofJson value) with
    | error fault => rfl
    | ok s => exact ih hnew.2 s

theorem fromItems_item (surplus : Fault) (value : Reading) (items : Items) :
    (rest.field name mayLack decode).fromItems surplus (.item value items) =
      decode value >>= fun a => (rest.fromItems surplus items).map fun s => (some a, s) := by
  rfl

namespace IsFilledBy

theorem nil : Slots.nil.IsFilledBy [] () := rfl

theorem field {value : Json} {a : α} {s : σ} (h : decode (Reading.ofJson value) = .ok a)
    (hnew : name ∉ members.map Prod.fst) (hrest : rest.IsFilledBy members s) :
    (rest.field name mayLack decode).IsFilledBy ((name, value) :: members) (some a, s) := by
  rw [IsFilledBy] at hrest ⊢
  rw [empty_field, Members.ofList, fill_member, step_field_self, h]
  change (rest.field name mayLack decode).fill (some a, rest.empty) _ = _
  rw [fill_field_of_not_mem hnew, hrest]
  rfl

theorem lacking {s : σ} (hnew : name ∉ members.map Prod.fst) (hrest : rest.IsFilledBy members s) :
    (rest.field name mayLack decode).IsFilledBy members (none, s) := by
  rw [IsFilledBy] at hrest ⊢
  rw [empty_field, fill_field_of_not_mem hnew, hrest]
  rfl

end IsFilledBy

end Slots

theorem Reading.asStructure_ofJson {α σ : Type} {mode inner : Mode} {slots : Mode → Slots σ}
    {build : σ → Result α} {members : List (String × Json)} {s : σ} {a : α}
    (hmode : mode.enter = .ok inner) (hfilled : (slots inner).IsFilledBy members s)
    (hbuild : build s = .ok a) :
    (Reading.ofJson (.object members)).asStructure mode slots build = .ok a := by
  rw [Slots.IsFilledBy] at hfilled
  rw [Reading.ofJson, Reading.asStructure, hmode]
  simp only [bind, Except.bind, hfilled, hbuild]

/-! Tagged values -/

section Tagged
variable {room : Nat} {tag : String} {names : List String} {members : List (String × Json)}
  {variant : String}

theorem Members.isSound_ofList (hsound : ∀ m ∈ members, (Reading.ofJson m.2).isSound room = true) :
    (Members.ofList members).isSound room = true := by
  induction members with
  | nil => rfl
  | cons m members ih =>
    obtain ⟨hvalue, hlater⟩ := List.forall_mem_cons.1 hsound
    exact Bool.and_eq_true_iff.2 ⟨hvalue, ih hlater⟩

theorem Reading.isSound_object
    (hsound : ∀ m ∈ members, (Reading.ofJson m.2).isSound room = true) :
    (Reading.ofJson (.object members)).isSound (room + 1) = true :=
  Members.isSound_ofList hsound

theorem Members.untag_ofList (hnew : tag ∉ members.map Prod.fst)
    (hsound : ∀ m ∈ members, (Reading.ofJson m.2).isSound room = true) :
    (Members.ofList members).untag (.streaming room) tag names (some variant) =
      .ok (variant, Members.ofList members) := by
  induction members with
  | nil => rfl
  | cons m members ih =>
    obtain ⟨key, value⟩ := m
    rw [List.map_cons, List.mem_cons, not_or] at hnew
    obtain ⟨hvalue, hlater⟩ := List.forall_mem_cons.1 hsound
    have hbuffer : (Reading.ofJson value).buffer (.streaming room) = .ok () := if_pos hvalue
    rw [Members.ofList, Members.untag, if_neg (Ne.symm hnew.1), hbuffer]
    simp only [bind, Except.bind]
    rw [ih hnew.2 hlater]
    rfl

theorem Reading.asTagged_ofJson (hvariant : variant ∈ names) (hnew : tag ∉ members.map Prod.fst)
    (hsound : ∀ m ∈ members, (Reading.ofJson m.2).isSound room = true) :
    (Reading.ofJson (.object ((tag, .text variant) :: members))).asTagged (.streaming (room + 1))
        tag names = .ok (variant, Reading.ofJson (.object members)) := by
  have huntag : (Members.ofList ((tag, .text variant) :: members)).untag (.streaming room) tag names
      none = .ok (variant, Members.ofList members) := by
    rw [Members.ofList, Members.untag, if_pos rfl]
    simp only [Option.isSome_none, Bool.false_eq_true, if_false, Reading.asVariant_ofJson hvariant,
      bind, Except.bind]
    exact Members.untag_ofList hnew hsound
  rw [Reading.ofJson, Reading.asTagged, Mode.enter_streaming]
  simp only [bind, Except.bind, huntag]
  rfl

end Tagged

/-! Whole texts -/

theorem decodeText_eq_ok_iff {α : Type} {decode : Mode → Reading → Result α} {text : String} {a : α} :
    decodeText decode text = .ok a ↔
      decode .start (read text).root = .ok a ∧ (read text).isEnded = true := by
  rw [decodeText, bind_eq_ok_iff]
  constructor
  · rintro ⟨a', ha', h⟩
    split at h
    next hended =>
      cases h
      exact ⟨ha', hended⟩
    next => cases h
  · rintro ⟨ha, hended⟩
    exact ⟨a, ha, if_pos hended⟩

/-- A decoder that takes a value from its JSON takes it from both written forms. -/
theorem decodeText_render {α : Type} {decode : Mode → Reading → Result α} {v : Json} {a : α}
    (h : decode .start (Reading.ofJson v) = .ok a) (pretty : Bool) {gaps : String}
    (hgaps : ∀ c ∈ gaps.toList, isGap c = true) :
    decodeText decode (v.render pretty ++ gaps) = .ok a := by
  rw [decodeText, read_render pretty v hgaps]
  simp [h, bind, Except.bind, pure, Except.pure]

end GameRegistration.Json
