import GameRegistration.Proofs.JsonDecoding

/-! Nesting. A text is decoded with room for so many nested arrays and objects. A decoder that
undoes its writer fails only on what is deeper, and then calls it malformed. -/
namespace GameRegistration.Json

mutual

/-- How deep arrays and objects nest. -/
def Reading.depth : Reading → Nat
  | .array items => items.depth + 1
  | .object members => members.depth + 1
  | _ => 0

def Items.depth : Items → Nat
  | .item value rest => max value.depth rest.depth
  | _ => 0

def Members.depth : Members → Nat
  | .member _ value rest => max value.depth rest.depth
  | _ => 0

end

def nesting (text : String) : Nat := (read text).root.depth

/-- The value, unless something nests deeper than there is room. -/
def bounded {α : Type} (depth room : Nat) (a : α) : Result α :=
  if depth ≤ room then .ok a else .error .malformed

section Bounded
variable {α β : Type} {depth later room : Nat} {a : α} {b : β}

theorem bounded_of_le (h : depth ≤ room) : bounded depth room a = .ok a := if_pos h

@[simp] theorem bounded_zero : bounded 0 room a = .ok a := bounded_of_le (Nat.zero_le room)

theorem bounded_of_lt (h : room < depth) : bounded depth room a = .error .malformed :=
  if_neg (Nat.not_le.2 h)

theorem map_bounded (f : α → β) : (bounded depth room a).map f = bounded depth room (f a) := by
  unfold bounded
  split <;> rfl

theorem bounded_bind {f : α → Result β} (h : f a = bounded later room b) :
    bounded depth room a >>= f = bounded (max depth later) room b := by
  by_cases hdepth : depth ≤ room
  · rw [bounded_of_le hdepth]
    change f a = _
    rw [h]
    simp only [bounded, Nat.max_le, hdepth, true_and]
  · rw [bounded_of_lt (Nat.not_le.1 hdepth), bounded_of_lt]
    · rfl
    · exact Nat.lt_of_lt_of_le (Nat.not_le.1 hdepth) (Nat.le_max_left depth later)

theorem enter_bind_bounded {f : Mode → Result β}
    (h : ∀ inner, f (.streaming inner) = bounded depth inner b) :
    (Mode.streaming room).enter >>= f = bounded (depth + 1) room b := by
  cases room with
  | zero => exact (bounded_of_lt (Nat.succ_pos depth)).symm
  | succ inner =>
    change f (.streaming inner) = _
    rw [h, bounded, bounded]
    simp

end Bounded

/-! Lists -/

section List
variable {α : Type} {toJson : α → Json} {xs : List α} {room : Nat}

theorem Items.decode_ofList_bounded {decode : Reading → Result α}
    (h : ∀ x ∈ xs, decode (Reading.ofJson (toJson x)) =
      bounded (Reading.ofJson (toJson x)).depth room x) :
    (Items.ofList (xs.map toJson)).decode decode =
      bounded (Items.ofList (xs.map toJson)).depth room xs := by
  induction xs with
  | nil => rfl
  | cons x xs ih =>
    obtain ⟨hx, hxs⟩ := List.forall_mem_cons.1 h
    rw [List.map_cons, Items.ofList, Items.decode, Items.depth, hx, ih hxs]
    exact bounded_bind (map_bounded _)

theorem Reading.asList_ofJson_bounded {decode : Mode → Reading → Result α}
    (h : ∀ inner, ∀ x ∈ xs, decode (.streaming inner) (Reading.ofJson (toJson x)) =
      bounded (Reading.ofJson (toJson x)).depth inner x) :
    (Reading.ofJson (.array (xs.map toJson))).asList (.streaming room) decode =
      bounded (Reading.ofJson (.array (xs.map toJson))).depth room xs := by
  rw [Reading.ofJson, Reading.asList, Reading.depth]
  exact enter_bind_bounded fun inner => Items.decode_ofList_bounded (h inner)

theorem Items.depth_ofList_le_iff :
    (Items.ofList (xs.map toJson)).depth ≤ room ↔
      ∀ x ∈ xs, (Reading.ofJson (toJson x)).depth ≤ room := by
  induction xs with
  | nil => simp [Items.ofList, Items.depth]
  | cons x xs ih =>
    rw [List.map_cons, Items.ofList, Items.depth, Nat.max_le, ih, List.forall_mem_cons]

end List

/-! Structures -/

namespace Slots

variable {α σ : Type} {name : String} {mayLack : Bool} {decode : Reading → Result α} {rest : Slots σ}
  {members : List (String × Json)} {room : Nat} {s : σ}

/-- The slots hold these values once the members are in, unless one of those is too deep. -/
def IsFilledWithin (slots : Slots σ) (room : Nat) (members : List (String × Json)) (s : σ) : Prop :=
  slots.fill slots.empty (Members.ofList members) = bounded (Members.ofList members).depth room s

namespace IsFilledWithin

theorem nil : Slots.nil.IsFilledWithin room [] () := rfl

theorem field {value : Json} {a : α}
    (h : decode (Reading.ofJson value) = bounded (Reading.ofJson value).depth room a)
    (hnew : name ∉ members.map Prod.fst) (hrest : rest.IsFilledWithin room members s) :
    (rest.field name mayLack decode).IsFilledWithin room ((name, value) :: members) (some a, s) := by
  rw [IsFilledWithin] at hrest ⊢
  rw [empty_field, Members.ofList, fill_member, step_field_self, h, Members.depth]
  refine (congrArg (· >>= _) (map_bounded _)).trans (bounded_bind ?_)
  rw [fill_field_of_not_mem hnew, hrest]
  exact map_bounded _

theorem leaf {value : Json} {a : α} (h : decode (Reading.ofJson value) = .ok a)
    (hdepth : (Reading.ofJson value).depth = 0) (hnew : name ∉ members.map Prod.fst)
    (hrest : rest.IsFilledWithin room members s) :
    (rest.field name mayLack decode).IsFilledWithin room ((name, value) :: members) (some a, s) :=
  .field (by rw [h, hdepth, bounded_zero]) hnew hrest

theorem lacking (hnew : name ∉ members.map Prod.fst) (hrest : rest.IsFilledWithin room members s) :
    (rest.field name mayLack decode).IsFilledWithin room members (none, s) := by
  rw [IsFilledWithin] at hrest ⊢
  rw [empty_field, fill_field_of_not_mem hnew, hrest]
  exact map_bounded _

end IsFilledWithin

end Slots

theorem Reading.asStructure_ofJson_bounded {α σ : Type} {room : Nat} {slots : Mode → Slots σ}
    {build : σ → Result α} {members : List (String × Json)} {s : σ} {a : α}
    (hfilled : ∀ inner, (slots (.streaming inner)).IsFilledWithin inner members s)
    (hbuild : build s = .ok a) :
    (Reading.ofJson (.object members)).asStructure (.streaming room) slots build =
      bounded (Reading.ofJson (.object members)).depth room a := by
  rw [Reading.ofJson, Reading.asStructure, Reading.depth]
  refine enter_bind_bounded fun inner => ?_
  have hfill := hfilled inner
  rw [Slots.IsFilledWithin] at hfill
  have hok : build s = bounded 0 inner a := hbuild.trans (bounded_of_le (Nat.zero_le inner)).symm
  change (slots (.streaming inner)).fill (slots (.streaming inner)).empty _ >>= build = _
  rw [hfill, bounded_bind hok, Nat.max_zero]

/-! What a decoded value owes to its reading -/

theorem Mode.enter_eq_ok_iff {room : Nat} {inner : Mode} :
    (Mode.streaming room).enter = .ok inner ↔ ∃ left, room = left + 1 ∧ inner = .streaming left := by
  cases room <;> simp [Mode.enter, eq_comm]

theorem demand_eq_ok_iff {α : Type} {name : String} {found : Option α} {a : α} :
    demand name found = .ok a ↔ found = some a := by
  cases found <;> simp [demand]

theorem Items.exists_of_mem {α : Type} {decode : Reading → Result α} :
    ∀ {items : Items} {xs : List α}, items.decode decode = .ok xs →
      ∀ x ∈ xs, ∃ value, decode value = .ok x
  | .close, _, h, _, hx => by
    cases h
    cases hx
  | .broken, _, h, _, _ => nomatch h
  | .item value rest, _, h, x, hx => by
    obtain ⟨first, hfirst, h⟩ := bind_eq_ok_iff.1 h
    obtain ⟨later, hlater, h⟩ := bind_eq_ok_iff.1 h
    cases h
    obtain rfl | hx := List.mem_cons.1 hx
    · exact ⟨value, hfirst⟩
    · exact exists_of_mem hlater x hx

theorem Reading.asList_keeps {α : Type} {mode : Mode} {decode : Mode → Reading → Result α}
    {r : Reading} {xs : List α} (h : r.asList mode decode = .ok xs) :
    ∃ inner, mode.enter = .ok inner ∧ ∀ x ∈ xs, ∃ value, decode inner value = .ok x := by
  unfold Reading.asList at h
  split at h
  next items =>
    obtain ⟨inner, hinner, h⟩ := bind_eq_ok_iff.1 h
    exact ⟨inner, hinner, Items.exists_of_mem h⟩
  next => cases h

namespace Slots

variable {α σ : Type} {name : String} {mayLack : Bool} {decode : Reading → Result α} {rest : Slots σ}

/-- What holds of the slots however they are filled. -/
structure Keeps (slots : Slots σ) (P : σ → Prop) : Prop where
  empty : P slots.empty
  put {s t : σ} {key : String} {put : Reading → Result σ} {value : Reading} :
    P s → slots.put s key = some put → put value = .ok t → P t
  fromItems {surplus : Fault} {items : Items} {t : σ} : slots.fromItems surplus items = .ok t → P t

namespace Keeps

theorem nil : Slots.nil.Keeps fun _ => True where
  empty := trivial
  put _ _ _ := trivial
  fromItems _ := trivial

theorem field {P : σ → Prop} {Q : α → Prop} (hdecode : ∀ {value a}, decode value = .ok a → Q a)
    (hrest : rest.Keeps P) :
    (rest.field name mayLack decode).Keeps fun s => (∀ a, s.1 = some a → Q a) ∧ P s.2 where
  empty := ⟨nofun, hrest.empty⟩
  put {s t key put value} hs hput hvalue := by
    change (if key = name then _ else _) = _ at hput
    by_cases hkey : key = name
    · rw [if_pos hkey] at hput
      cases hput
      cases hfound : s.1 with
      | some a => simp [hfound] at hvalue
      | none =>
        simp only [hfound, Option.isSome_none, Bool.false_eq_true, if_false] at hvalue
        obtain ⟨a, ha, ht⟩ := bind_eq_ok_iff.1 hvalue
        cases ht
        exact ⟨fun _ heq => Option.some.inj heq ▸ hdecode ha, hs.2⟩
    · rw [if_neg hkey, Option.map_eq_some_iff] at hput
      obtain ⟨later, hlater, rfl⟩ := hput
      obtain ⟨s', hs', ht⟩ := bind_eq_ok_iff.1 hvalue
      cases ht
      exact ⟨hs.1, hrest.put hs.2 hlater hs'⟩
  fromItems {surplus items t} h := by
    cases items with
    | item value items =>
      obtain ⟨a, ha, h⟩ := bind_eq_ok_iff.1 h
      obtain ⟨s, hs, ht⟩ := bind_eq_ok_iff.1 h
      cases ht
      exact ⟨fun _ heq => Option.some.inj heq ▸ hdecode ha, hrest.fromItems hs⟩
    | broken => cases h
    | close =>
      cases mayLack with
      | false => cases h
      | true =>
        obtain ⟨s, hs, ht⟩ := bind_eq_ok_iff.1 h
        cases ht
        exact ⟨nofun, hrest.fromItems hs⟩

theorem fill {P : σ → Prop} {slots : Slots σ} (h : slots.Keeps P) {members : Members} {s t : σ}
    (hs : P s) (hfill : slots.fill s members = .ok t) : P t := by
  fun_induction slots.fill s members with
  | case1 s =>
    cases hfill
    exact hs
  | case2 => cases hfill
  | case3 => cases hfill
  | case4 s key value rest put hput ih =>
    obtain ⟨s', hs', hrest⟩ := bind_eq_ok_iff.1 hfill
    exact ih s' (h.put hs hput hs') hrest
  | case5 s key value rest hput ih =>
    obtain ⟨_, -, hrest⟩ := bind_eq_ok_iff.1 hfill
    exact ih hs hrest

end Keeps

end Slots

theorem Reading.asStructure_keeps {α σ : Type} {mode : Mode} {slots : Mode → Slots σ}
    {build : σ → Result α} {P : Mode → σ → Prop} {r : Reading} {a : α}
    (hslots : ∀ inner, (slots inner).Keeps (P inner))
    (h : r.asStructure mode slots build = .ok a) :
    ∃ inner s, mode.enter = .ok inner ∧ P inner s ∧ build s = .ok a := by
  unfold Reading.asStructure at h
  split at h
  next members =>
    obtain ⟨inner, hinner, h⟩ := bind_eq_ok_iff.1 h
    obtain ⟨s, hs, hbuild⟩ := bind_eq_ok_iff.1 h
    exact ⟨inner, s, hinner, (hslots inner).fill (hslots inner).empty hs, hbuild⟩
  next items =>
    obtain ⟨inner, hinner, h⟩ := bind_eq_ok_iff.1 h
    obtain ⟨s, hs, hbuild⟩ := bind_eq_ok_iff.1 h
    exact ⟨inner, s, hinner, (hslots inner).fromItems hs, hbuild⟩
  next => cases h

theorem Reading.enter_of_asStructure {α σ : Type} {mode : Mode} {slots : Mode → Slots σ}
    {build : σ → Result α} {r : Reading} {a : α} (h : r.asStructure mode slots build = .ok a) :
    ∃ inner, mode.enter = .ok inner := by
  have hslots (inner : Mode) : (slots inner).Keeps fun _ => True :=
    ⟨trivial, fun _ _ _ => trivial, fun _ => trivial⟩
  obtain ⟨inner, _, hinner, -⟩ := asStructure_keeps hslots h
  exact ⟨inner, hinner⟩

end GameRegistration.Json
