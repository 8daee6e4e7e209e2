import GameRegistration.Proofs.JsonNesting

/-! Rearranged readings. Members of one object may change places as long as those of one key stay in
order, and a structure may get further members that name none of its fields. -/
namespace GameRegistration.Json

inductive Place where
  /-- A text, a number, a map of texts, or what no field asks for. -/
  | other
  | list (item : Place)
  | name
  | position
  | attribute
  | element
  | job
  /-- A job of a known kind, with its tag or without it. -/
  | tagged (kind : String)
  | untagged (kind : String)
  | request

namespace Place

def jobFields (kind : String) : List (String × Place) :=
  [("context", .other), ("parent", .element),
    if kind = "element" then ("element", .element) else ("attribute", .attribute)]

def fields : Place → List (String × Place)
  | .other | .list _ | .job => []
  | .name => [("namespace", .other), ("local_name", .other)]
  | .position => [("file_name", .other), ("line_number", .other)]
  | .attribute => [("name", .name), ("value", .other)]
  | .element => [("name", .name), ("source_line", .position), ("attributes", .list .attribute),
      ("children", .list .element)]
  | .tagged kind => ("kind", .other) :: jobFields kind
  | .untagged kind => jobFields kind
  | .request => [("section_id", .other), ("jobs", .list .job)]

def ofKey (fields : List (String × Place)) (key : Option String) : Place :=
  (key.bind fun key => fields.lookup key).getD .other

/-- Fields in an array stand in their order. -/
def ofIndex : List (String × Place) → Nat → Place
  | [], _ => .other
  | (_, p) :: _, 0 => p
  | _ :: rest, i + 1 => ofIndex rest i

def row : Place → Nat → Place
  | .list item => fun _ => item
  | p => ofIndex p.fields

/-- A job shows its kind itself. -/
def resolve (r : Reading) : Place → Place
  | .job =>
    match r.asTagged .buffered "kind" ["element", "attribute"] with
    | .ok (kind, _) => .tagged kind
    | .error _ => .other
  | p => p

end Place

mutual

inductive Reading.Rearranges : Place → Reading → Reading → Prop where
  | same {p r} : Reading.Rearranges p r r
  | array {p items items'} :
    Items.Rearranges (p.resolve (.array items)).row items items' →
      Reading.Rearranges p (.array items) (.array items')
  | object {p members members'} :
    Members.Rearranges (p.resolve (.object members)).fields members members' →
      Reading.Rearranges p (.object members) (.object members')

inductive Items.Rearranges : (Nat → Place) → Items → Items → Prop where
  | same {row items} : Items.Rearranges row items items
  | item {row value value' rest rest'} :
    Reading.Rearranges (row 0) value value' → Items.Rearranges (fun i => row (i + 1)) rest rest' →
      Items.Rearranges row (.item value rest) (.item value' rest')

/-- Members change places if their keys differ or are no texts, since nothing is read from an object with
a key that is no text. A new member is of a structure, names none of its fields, and has a value that can
be kept if there is room: no text or key in it is without a value, and no number is out of range. -/
inductive Members.Rearranges : List (String × Place) → Members → Members → Prop where
  | same {fields members} : Members.Rearranges fields members members
  | member {fields key value value' rest rest'} :
    Reading.Rearranges (.ofKey fields key) value value' → Members.Rearranges fields rest rest' →
      Members.Rearranges fields (.member key value rest) (.member key value' rest')
  | swap {fields key key' value value' rest} (hne : key = key' → key = none) :
    Members.Rearranges fields (.member key value (.member key' value' rest))
      (.member key' value' (.member key value rest))
  | insert {fields key value members room} (hstructure : fields ≠ []) (hnew : key ∉ fields.map Prod.fst)
    (hsound : value.isSound room = true) :
    Members.Rearranges fields members (.member (some key) value members)
  | trans {fields members members' members''} :
    Members.Rearranges fields members members' → Members.Rearranges fields members' members'' →
      Members.Rearranges fields members members''

end

/-! Permutations -/

def Members.ofReadings : List (Option String × Reading) → Members
  | [] => .close
  | (key, value) :: rest => .member key value (ofReadings rest)

/-- The members of an object with distinct keys may stand in any order. -/
theorem Members.rearranges_of_perm {fields : List (String × Place)}
    {members members' : List (Option String × Reading)} (h : members.Perm members')
    (hkeys : (members.map Prod.fst).Nodup) :
    Members.Rearranges fields (ofReadings members) (ofReadings members') := by
  induction h with
  | nil => exact .same
  | cons m _ ih => exact .member .same (ih (List.nodup_cons.1 hkeys).2)
  | swap m m' rest =>
    have hne : m'.1 ≠ m.1 := fun heq =>
      (List.nodup_cons.1 hkeys).1 (heq ▸ List.mem_cons_self)
    exact .swap fun heq => absurd heq hne
  | trans hfirst _ ih ih' =>
    exact .trans (ih hkeys) (ih' ((hfirst.map Prod.fst).nodup_iff.1 hkeys))

/-! Soundness -/

mutual

theorem Reading.isWhole_of_isSound {room : Nat} : ∀ {r : Reading}, r.isSound room = true →
    r.isWhole = true
  | .null, _ | .bool _, _ | .number _, _ | .text _, _ => rfl
  | .broken, h => by cases h
  | .array _, h => Items.isWhole_of_isSound (Bool.and_eq_true_iff.1 h).2
  | .object _, h => Members.isWhole_of_isSound (Bool.and_eq_true_iff.1 h).2

theorem Items.isWhole_of_isSound {room : Nat} : ∀ {items : Items}, items.isSound room = true →
    items.isWhole = true
  | .close, _ => rfl
  | .broken, h => by cases h
  | .item _ _, h =>
    have h := Bool.and_eq_true_iff.1 h
    Bool.and_eq_true_iff.2 ⟨Reading.isWhole_of_isSound h.1, Items.isWhole_of_isSound h.2⟩

theorem Members.isWhole_of_isSound {room : Nat} : ∀ {members : Members},
    members.isSound room = true → members.isWhole = true
  | .close, _ => rfl
  | .broken, h => by cases h
  | .member none _ _, h => by cases h
  | .member (some _) _ _, h =>
    have h := Bool.and_eq_true_iff.1 h
    Bool.and_eq_true_iff.2 ⟨Reading.isWhole_of_isSound h.1, Members.isWhole_of_isSound h.2⟩

end

mutual

theorem Reading.isSound_of_depth_le {room room' : Nat} : ∀ {r : Reading}, r.isSound room = true →
    r.depth ≤ room' → r.isSound room' = true
  | .null, _, _ | .bool _, _, _ => rfl
  | .number .outOfRange, h, _ => by cases h
  | .number (.natural _), _, _ | .number (.negative _), _, _ | .number .real, _, _ => rfl
  | .text none, h, _ => by cases h
  | .text (some _), _, _ => rfl
  | .broken, h, _ => by cases h
  | .array _, h, hdepth =>
    Bool.and_eq_true_iff.2 ⟨bne_iff_ne.2 (Nat.ne_zero_of_lt hdepth),
      Items.isSound_of_depth_le (Bool.and_eq_true_iff.1 h).2 (Nat.le_sub_one_of_lt hdepth)⟩
  | .object _, h, hdepth =>
    Bool.and_eq_true_iff.2 ⟨bne_iff_ne.2 (Nat.ne_zero_of_lt hdepth),
      Members.isSound_of_depth_le (Bool.and_eq_true_iff.1 h).2 (Nat.le_sub_one_of_lt hdepth)⟩

theorem Items.isSound_of_depth_le {room room' : Nat} : ∀ {items : Items}, items.isSound room = true →
    items.depth ≤ room' → items.isSound room' = true
  | .close, _, _ => rfl
  | .broken, h, _ => by cases h
  | .item _ _, h, hdepth =>
    have h := Bool.and_eq_true_iff.1 h
    have hdepth := Nat.max_le.1 hdepth
    Bool.and_eq_true_iff.2
      ⟨Reading.isSound_of_depth_le h.1 hdepth.1, Items.isSound_of_depth_le h.2 hdepth.2⟩

theorem Members.isSound_of_depth_le {room room' : Nat} : ∀ {members : Members},
    members.isSound room = true → members.depth ≤ room' → members.isSound room' = true
  | .close, _, _ => rfl
  | .broken, h, _ => by cases h
  | .member none _ _, h, _ => by cases h
  | .member (some _) _ _, h, hdepth =>
    have h := Bool.and_eq_true_iff.1 h
    have hdepth := Nat.max_le.1 hdepth
    Bool.and_eq_true_iff.2
      ⟨Reading.isSound_of_depth_le h.1 hdepth.1, Members.isSound_of_depth_le h.2 hdepth.2⟩

end

/-! What a rearrangement keeps -/

mutual

/-- Nothing gets less deep, so that what fits in the end fits on the way. -/
theorem Reading.Rearranges.depth_le : ∀ {p : Place} {r r' : Reading}, r.Rearranges p r' →
    r.depth ≤ r'.depth
  | _, _, _, .same => Nat.le_refl _
  | _, _, _, .array h => Nat.succ_le_succ h.depth_le
  | _, _, _, .object h => Nat.succ_le_succ h.depth_le

theorem Items.Rearranges.depth_le : ∀ {row : Nat → Place} {items items' : Items},
    items.Rearranges row items' → items.depth ≤ items'.depth
  | _, _, _, .same => Nat.le_refl _
  | _, _, _, .item hvalue hrest =>
    Nat.max_le.2 ⟨Nat.le_trans hvalue.depth_le (Nat.le_max_left _ _),
      Nat.le_trans hrest.depth_le (Nat.le_max_right _ _)⟩

theorem Members.Rearranges.depth_le : ∀ {fields : List (String × Place)} {members members' : Members},
    members.Rearranges fields members' → members.depth ≤ members'.depth
  | _, _, _, .same => Nat.le_refl _
  | _, _, _, .member hvalue hrest =>
    Nat.max_le.2 ⟨Nat.le_trans hvalue.depth_le (Nat.le_max_left _ _),
      Nat.le_trans hrest.depth_le (Nat.le_max_right _ _)⟩
  | _, _, _, .swap _ => Nat.le_of_eq (Nat.max_left_comm _ _ _)
  | _, _, _, .insert _ _ _ => Nat.le_max_right _ _
  | _, _, _, .trans h h' => Nat.le_trans h.depth_le h'.depth_le

end

mutual

theorem Reading.Rearranges.isWhole : ∀ {p : Place} {r r' : Reading}, r.Rearranges p r' →
    r.isWhole = true → r'.isWhole = true
  | _, _, _, .same, hwhole => hwhole
  | _, _, _, .array h, hwhole => h.isWhole hwhole
  | _, _, _, .object h, hwhole => h.isWhole hwhole

theorem Items.Rearranges.isWhole : ∀ {row : Nat → Place} {items items' : Items},
    items.Rearranges row items' → items.isWhole = true → items'.isWhole = true
  | _, _, _, .same, hwhole => hwhole
  | _, _, _, .item hvalue hrest, hwhole =>
    have hwhole := Bool.and_eq_true_iff.1 hwhole
    Bool.and_eq_true_iff.2 ⟨hvalue.isWhole hwhole.1, hrest.isWhole hwhole.2⟩

theorem Members.Rearranges.isWhole : ∀ {fields : List (String × Place)} {members members' : Members},
    members.Rearranges fields members' → members.isWhole = true → members'.isWhole = true
  | _, _, _, .same, hwhole => hwhole
  | _, _, _, .member hvalue hrest, hwhole =>
    have hwhole := Bool.and_eq_true_iff.1 hwhole
    Bool.and_eq_true_iff.2 ⟨hvalue.isWhole hwhole.1, hrest.isWhole hwhole.2⟩
  | _, _, _, .swap _, hwhole => (Bool.and_left_comm _ _ _).trans hwhole
  | _, _, _, .insert _ _ hsound, hwhole =>
    Bool.and_eq_true_iff.2 ⟨Reading.isWhole_of_isSound hsound, hwhole⟩
  | _, _, _, .trans h h', hwhole => h'.isWhole (h.isWhole hwhole)

end

mutual

theorem Reading.Rearranges.isSound : ∀ {room : Nat} {p : Place} {r r' : Reading}, r.Rearranges p r' →
    r'.depth ≤ room → r.isSound room = true → r'.isSound room = true
  | _, _, _, _, .same, _, hsound => hsound
  | _, _, _, _, .array h, hdepth, hsound =>
    have hsound := Bool.and_eq_true_iff.1 hsound
    Bool.and_eq_true_iff.2 ⟨hsound.1, h.isSound (Nat.le_sub_one_of_lt hdepth) hsound.2⟩
  | _, _, _, _, .object h, hdepth, hsound =>
    have hsound := Bool.and_eq_true_iff.1 hsound
    Bool.and_eq_true_iff.2 ⟨hsound.1, h.isSound (Nat.le_sub_one_of_lt hdepth) hsound.2⟩

theorem Items.Rearranges.isSound : ∀ {room : Nat} {row : Nat → Place} {items items' : Items},
    items.Rearranges row items' → items'.depth ≤ room → items.isSound room = true →
      items'.isSound room = true
  | _, _, _, _, .same, _, hsound => hsound
  | _, _, _, _, .item hvalue hrest, hdepth, hsound =>
    have hdepth := Nat.max_le.1 hdepth
    have hsound := Bool.and_eq_true_iff.1 hsound
    Bool.and_eq_true_iff.2 ⟨hvalue.isSound hdepth.1 hsound.1, hrest.isSound hdepth.2 hsound.2⟩

theorem Members.Rearranges.isSound : ∀ {room : Nat} {fields : List (String × Place)}
    {members members' : Members}, members.Rearranges fields members' → members'.depth ≤ room →
      members.isSound room = true → members'.isSound room = true
  | _, _, _, _, .same, _, hsound => hsound
  | _, _, .member none _ _, _, .member _ _, _, hsound => by cases hsound
  | _, _, .member (some _) _ _, _, .member hvalue hrest, hdepth, hsound =>
    have hdepth := Nat.max_le.1 hdepth
    have hsound := Bool.and_eq_true_iff.1 hsound
    Bool.and_eq_true_iff.2 ⟨hvalue.isSound hdepth.1 hsound.1, hrest.isSound hdepth.2 hsound.2⟩
  | _, _, .member none _ (.member _ _ _), _, .swap _, _, hsound => by cases hsound
  | room, _, .member (some _) value (.member none _ _), _, .swap _, _, hsound => by
    cases (Bool.and_eq_true_iff.1 hsound).2
  | _, _, .member (some _) _ (.member (some _) _ _), _, .swap _, _, hsound =>
    (Bool.and_left_comm _ _ _).trans hsound
  | _, _, _, _, .insert _ _ hvalue, hdepth, hsound =>
    Bool.and_eq_true_iff.2
      ⟨Reading.isSound_of_depth_le hvalue (Nat.max_le.1 hdepth).1, hsound⟩
  | _, _, _, _, .trans h h', hdepth, hsound =>
    h'.isSound hdepth (h.isSound (Nat.le_trans h'.depth_le hdepth) hsound)

end

end GameRegistration.Json
