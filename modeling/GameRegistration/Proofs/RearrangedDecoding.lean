import GameRegistration.Proofs.Rearrangement
import GameRegistration.Proofs.JsonDecoding

/-! Decoding rearranged readings. Decoders whose results look the same after rearrangement give such
decoders for lists, for structures, for maps and for tagged values. -/
namespace GameRegistration.Json

/-- Where the first is a value, the second is one of the same view. -/
def Follows {α β : Type} (view : α → β) (x x' : Result α) : Prop :=
  ∀ a, x = .ok a → ∃ a', x' = .ok a' ∧ view a' = view a

namespace Follows

variable {α β γ δ : Type} {view : α → β} {view' : γ → δ} {x x' x'' : Result α}

theorem refl (x : Result α) : Follows view x x := fun a h => ⟨a, h, rfl⟩

theorem trans (h : Follows view x x') (h' : Follows view x' x'') : Follows view x x'' := by
  intro a ha
  obtain ⟨a', ha', hview⟩ := h a ha
  obtain ⟨a'', ha'', hview'⟩ := h' a' ha'
  exact ⟨a'', ha'', hview'.trans hview⟩

theorem ok {a a' : α} (h : view a' = view a) : Follows view (.ok a) (.ok a') :=
  fun _ ha => ⟨a', rfl, Except.ok.inj ha ▸ h⟩

theorem error (fault : Fault) : Follows view (.error fault) x := nofun

theorem bind {f f' : α → Result γ} (h : Follows view x x')
    (hf : ∀ a a', view a' = view a → Follows view' (f a) (f' a')) :
    Follows view' (x >>= f) (x' >>= f') := by
  intro c hc
  obtain ⟨a, ha, hc⟩ := bind_eq_ok_iff.1 hc
  obtain ⟨a', ha', hview⟩ := h a ha
  obtain ⟨c', hc', hview'⟩ := hf a a' hview c hc
  exact ⟨c', bind_eq_ok_iff.2 ⟨a', ha', hc'⟩, hview'⟩

theorem map {f f' : α → γ} (h : Follows view x x')
    (hf : ∀ a a', view a' = view a → view' (f' a') = view' (f a)) :
    Follows view' (x.map f) (x'.map f') := by
  intro c hc
  cases x with
  | error => cases hc
  | ok a =>
    obtain ⟨a', rfl, hview⟩ := h a rfl
    cases hc
    exact ⟨f' a', rfl, hf a a' hview⟩

theorem comm (x : Result α) (y : Result β) {f : α → β → Result γ} {f' : β → α → Result γ}
    (hf : ∀ a b, Follows view' (f a b) (f' b a)) :
    Follows view' (x >>= fun a => y >>= f a) (y >>= fun b => x >>= f' b) := by
  cases x with
  | error fault => exact .error fault
  | ok a =>
    cases y with
    | error fault => exact .error fault
    | ok b => exact hf a b

theorem demand {name : String} {found found' : Option α} (h : found'.map view = found.map view) :
    Follows view (Json.demand name found) (Json.demand name found') := by
  cases found with
  | none => exact .error _
  | some a =>
    obtain ⟨a', rfl, hview⟩ := Option.map_eq_some_iff.1 h
    exact .ok hview

theorem eq_ok {a : α} (h : Follows id x x') (hx : x = .ok a) : x' = .ok a := by
  obtain ⟨a', ha', rfl⟩ := h a hx
  exact ha'

end Follows

/-- The decoder takes rearranged readings at this place, up to this depth, to values of the same
view. -/
def Respects {α β : Type} (p : Place) (view : α → β) (depth : Nat) (decode : Reading → Result α) :
    Prop :=
  ∀ r r' : Reading, r.Rearranges p r' → r'.depth ≤ depth → Follows view (decode r) (decode r')

namespace Respects

variable {α β : Type} {p : Place} {view : α → β} {depth depth' : Nat} {decode : Reading → Result α}

theorem mono (h : Respects p view depth decode) (hdepth : depth' ≤ depth) :
    Respects p view depth' decode :=
  fun r r' hr hle => h r r' hr (Nat.le_trans hle hdepth)

theorem zero : Respects p view 0 decode := by
  intro r r' hr hdepth
  cases hr with
  | same => exact .refl _
  | array => exact absurd hdepth (Nat.not_succ_le_zero _)
  | object => exact absurd hdepth (Nat.not_succ_le_zero _)

theorem leaf (harray : ∀ items, decode (.array items) = .error .invalidType)
    (hobject : ∀ members, decode (.object members) = .error .invalidType) :
    Respects p view depth decode := by
  intro r r' hr hdepth
  cases hr with
  | same => exact .refl _
  | array => rw [harray]; exact .error _
  | object => rw [hobject]; exact .error _

theorem asText : Respects p id depth Reading.asText :=
  .leaf (fun _ => rfl) fun _ => rfl

theorem asTextOption : Respects p id depth Reading.asTextOption :=
  .leaf (fun _ => rfl) fun _ => rfl

theorem asWordOption : Respects p id depth Reading.asWordOption :=
  .leaf (fun _ => rfl) fun _ => rfl

end Respects

theorem Reading.Rearranges.skip {p : Place} {r r' : Reading} (h : r.Rearranges p r') :
    Follows (id : Unit → Unit) r.skip r'.skip := by
  unfold Reading.skip
  split
  next hwhole => rw [if_pos (h.isWhole hwhole)]; exact .refl _
  next => exact .error _

/-! Lists -/

section List
variable {α β : Type} {p : Place} {view : α → β} {depth : Nat}

theorem Items.decode_follows {decode : Reading → Result α} (h : Respects p view depth decode) :
    ∀ {items items' : Items}, items.Rearranges (fun _ => p) items' → items'.depth ≤ depth →
      Follows (List.map view) (items.decode decode) (items'.decode decode)
  | _, _, .same, _ => .refl _
  | .item value rest, .item value' rest', .item hvalue hrest, hdepth => by
    obtain ⟨hhead, htail⟩ := Nat.max_le.1 hdepth
    refine .bind (h value value' hvalue hhead) fun a a' ha => ?_
    refine .bind (decode_follows h hrest htail) fun as as' has => .ok ?_
    rw [List.map_cons, List.map_cons, ha, has]

theorem Respects.asList {mode : Mode} {decode : Mode → Reading → Result α}
    (h : ∀ inner, mode.enter = .ok inner → Respects p view depth (decode inner)) :
    Respects (.list p) (List.map view) (depth + 1) (Reading.asList mode decode) := by
  intro r r' hr hdepth
  cases hr with
  | same => exact .refl _
  | object => exact .error _
  | array hitems =>
    rw [Reading.asList, Reading.asList]
    cases hmode : mode.enter with
    | error fault => exact .error fault
    | ok inner => exact Items.decode_follows (h inner hmode) hitems (Nat.le_of_succ_le_succ hdepth)

end List

/-! Two members in a row -/

namespace Slots

theorem step_nil (s : Unit) (key : String) (value : Reading) :
    Slots.nil.step s key value = value.skip.map fun _ => s := by
  cases h : value.skip <;> simp [Slots.step, Slots.nil, h] <;> rfl

section Two
variable {α σ : Type} {name key key' : String} {mayLack : Bool} {decode : Reading → Result α}
  {rest : Slots σ} {found : Option α} {s : σ} {value value' : Reading}

theorem step_self_step (hne : key ≠ name) :
    (rest.field name mayLack decode).step (found, s) name value >>=
        (fun s => (rest.field name mayLack decode).step s key value') =
      if found.isSome then .error (.duplicateField name)
      else decode value >>= fun a => (rest.step s key value').map fun s => (some a, s) := by
  rw [step_field_self]
  cases found with
  | some => rfl
  | none =>
    cases decode value with
    | error => rfl
    | ok a => exact step_field_of_ne hne (some a) s value'

theorem step_step_self (hne : key ≠ name) :
    (rest.field name mayLack decode).step (found, s) key value' >>=
        (fun s => (rest.field name mayLack decode).step s name value) =
      rest.step s key value' >>= fun s =>
        if found.isSome then .error (.duplicateField name)
        else (decode value).map fun a => (some a, s) := by
  rw [step_field_of_ne hne]
  cases rest.step s key value' with
  | error => rfl
  | ok t => exact step_field_self found t value

theorem step_step (hne : key ≠ name) (hne' : key' ≠ name) :
    (rest.field name mayLack decode).step (found, s) key value >>=
        (fun s => (rest.field name mayLack decode).step s key' value') =
      (rest.step s key value >>= fun s => rest.step s key' value').map fun s => (found, s) := by
  rw [step_field_of_ne hne]
  cases rest.step s key value with
  | error => rfl
  | ok t => exact step_field_of_ne hne' found t value'

end Two

theorem fill_member_member {σ : Type} (slots : Slots σ) (s : σ) (key key' : String)
    (value value' : Reading) (rest : Members) :
    slots.fill s (.member (some key) value (.member (some key') value' rest)) =
      (slots.step s key value >>= fun s => slots.step s key' value') >>=
        fun s => slots.fill s rest := by
  rw [fill_member, bind_assoc]
  simp only [fill_member]

end Slots

/-! Structures -/

namespace Place

theorem ofKey_cons_self (name : String) (p : Place) (fields : List (String × Place)) :
    ofKey ((name, p) :: fields) (some name) = p := by
  simp [ofKey]

theorem ofKey_cons_of_ne {key name : String} (h : key ≠ name) (p : Place)
    (fields : List (String × Place)) :
    ofKey ((name, p) :: fields) (some key) = ofKey fields (some key) := by
  simp [ofKey, List.lookup_cons, beq_false_of_ne h]

end Place

namespace Slots

variable {α β σ τ : Type} {fields : List (String × Place)} {view : σ → τ} {depth : Nat}

/-- The slots come out the same when rearranged members or items of such fields are put into them. -/
structure Respects (slots : Slots σ) (fields : List (String × Place)) (view : σ → τ) (depth : Nat) :
    Prop where
  step {s s' : σ} {key : String} {value value' : Reading} (hs : view s' = view s)
    (hvalue : value.Rearranges (.ofKey fields (some key)) value') (hdepth : value'.depth ≤ depth) :
    Follows view (slots.step s key value) (slots.step s' key value')
  swap (s : σ) {key key' : String} (value value' : Reading) (hne : key ≠ key') :
    Follows id (slots.step s key value >>= fun s => slots.step s key' value')
      (slots.step s key' value' >>= fun s => slots.step s key value)
  skip (s : σ) {key : String} (value : Reading) (hnew : key ∉ fields.map Prod.fst) :
    slots.step s key value = value.skip.map fun _ => s
  fromItems {surplus : Fault} {items items' : Items}
    (hitems : items.Rearranges (.ofIndex fields) items') (hdepth : items'.depth ≤ depth) :
    Follows view (slots.fromItems surplus items) (slots.fromItems surplus items')

namespace Respects

theorem nil : Slots.nil.Respects [] id depth where
  step _ hvalue _ := by
    rw [step_nil, step_nil]
    exact hvalue.skip.map fun _ _ _ => rfl
  swap s key key' value value' _ := by
    simp only [step_nil]
    cases value.skip with
    | error fault => exact .error fault
    | ok => cases value'.skip <;> exact .refl _
  skip s key value _ := step_nil s key value
  fromItems hitems _ := by
    cases hitems with
    | same => exact .refl _
    | item => exact .error _

theorem field {name : String} {mayLack : Bool} {p : Place} {look : α → β}
    {decode : Reading → Result α} {rest : Slots σ} (hdecode : Json.Respects p look depth decode)
    (hrest : rest.Respects fields view depth) :
    (rest.field name mayLack decode).Respects ((name, p) :: fields)
      (fun s => (s.1.map look, view s.2)) depth where
  step {s s' key value value'} hs hvalue hdepth := by
    obtain ⟨found, s⟩ := s
    obtain ⟨found', s'⟩ := s'
    obtain ⟨hfound, hs⟩ := Prod.mk.injEq _ _ _ _ ▸ hs
    by_cases hkey : key = name
    · subst hkey
      rw [Place.ofKey_cons_self] at hvalue
      rw [step_field_self, step_field_self]
      have hsome : found'.isSome = found.isSome := by simpa using congrArg Option.isSome hfound
      rw [hsome]
      split
      · exact .error _
      · exact (hdecode _ _ hvalue hdepth).map fun a a' ha => by simp only [Option.map_some, ha, hs]
    · rw [Place.ofKey_cons_of_ne hkey] at hvalue
      rw [step_field_of_ne hkey, step_field_of_ne hkey]
      exact (hrest.step hs hvalue hdepth).map fun t t' ht => by
        simp only [hfound, ht]
  -- One of the two fills the first slot and the other goes past it, or both go past it.
  swap s key key' value value' hne := by
    obtain ⟨found, s⟩ := s
    by_cases hkey : key = name
    · subst hkey
      rw [step_self_step hne.symm, step_step_self hne.symm]
      cases found with
      | some => exact .error _
      | none => exact .comm (decode value) (rest.step s key' value') fun _ _ => .refl _
    by_cases hkey' : key' = name
    · subst hkey'
      rw [step_self_step hne, step_step_self hne]
      cases found with
      | some => cases rest.step s key value <;> exact .error _
      | none => exact .comm (rest.step s key value) (decode value') fun _ _ => .refl _
    · rw [step_step hkey hkey', step_step hkey' hkey]
      exact (hrest.swap s value value' hne).map fun t t' ht => congrArg (Prod.mk found) ht
  skip s key value hnew := by
    obtain ⟨found, s⟩ := s
    rw [List.map_cons, List.mem_cons, not_or] at hnew
    rw [step_field_of_ne hnew.1, hrest.skip s value hnew.2]
    cases value.skip <;> rfl
  fromItems {surplus items items'} hitems hdepth := by
    cases hitems with
    | same => exact .refl _
    | item hvalue hitems =>
      obtain ⟨hhead, htail⟩ := Nat.max_le.1 hdepth
      rw [fromItems_item, fromItems_item]
      refine (hdecode _ _ hvalue hhead).bind fun a a' ha => ?_
      refine (hrest.fromItems hitems htail).map fun s s' hs => ?_
      simp only [Option.map_some, ha, hs]

theorem fill_same {slots : Slots σ} (h : slots.Respects fields view depth) :
    ∀ {s s' : σ} (members : Members), view s' = view s → members.depth ≤ depth →
      Follows view (slots.fill s members) (slots.fill s' members)
  | _, _, .close, hs, _ => .ok hs
  | _, _, .broken, _, _ => .error _
  | _, _, .member none _ _, _, _ => .error _
  | s, s', .member (some key) value rest, hs, hdepth => by
    obtain ⟨hhead, htail⟩ := Nat.max_le.1 hdepth
    rw [fill_member, fill_member]
    exact (h.step hs .same hhead).bind fun t t' ht => h.fill_same rest ht htail

theorem fill {slots : Slots σ} (h : slots.Respects fields view depth) :
    ∀ {members members' : Members} {s s' : σ}, members.Rearranges fields members' →
      view s' = view s → members'.depth ≤ depth →
      Follows view (slots.fill s members) (slots.fill s' members')
  | _, _, _, _, .same, hs, hdepth => h.fill_same _ hs hdepth
  | .member none _ _, _, _, _, .member _ _, _, _ => .error _
  | .member (some key) value rest, .member _ value' rest', s, s', .member hvalue hrest, hs, hdepth => by
    obtain ⟨hhead, htail⟩ := Nat.max_le.1 hdepth
    rw [fill_member, fill_member]
    exact (h.step hs hvalue hhead).bind fun t t' ht => h.fill hrest ht htail
  -- A key that is no text fails wherever it stands.
  | .member none _ _, _, _, _, .swap _, _, _ => .error _
  | .member (some key) value (.member none value' rest), _, s, s', .swap _, hs, hdepth => by
    rw [fill_member]
    cases slots.step s key value <;> exact .error _
  | .member (some key) value (.member (some key') value' rest), _, s, s', .swap hne, hs, hdepth => by
    have hne : key ≠ key' := fun heq => nomatch hne (congrArg some heq)
    refine .trans ?_ (h.fill_same _ hs hdepth)
    rw [fill_member_member, fill_member_member]
    exact (h.swap s value value' hne).bind fun t t' (ht : t' = t) => ht ▸ .refl _
  | members, .member _ value _, s, s', .insert _ hnew hsound, hs, hdepth => by
    obtain ⟨hhead, htail⟩ := Nat.max_le.1 hdepth
    have hskip : value.skip = .ok () := if_pos (Reading.isWhole_of_isSound hsound)
    rw [fill_member, h.skip s' value hnew, hskip]
    exact h.fill_same members hs htail
  | _, _, _, _, .trans hfirst hsecond, hs, hdepth =>
    (h.fill hfirst hs (Nat.le_trans hsecond.depth_le hdepth)).trans (h.fill hsecond rfl hdepth)

end Respects

end Slots

structure Place.IsStructure (p : Place) (fields : List (String × Place)) : Prop where
  resolve_eq (r : Reading) : p.resolve r = p
  row_eq : p.row = .ofIndex p.fields
  fields_eq : p.fields = fields

section Structure
variable {α β σ τ : Type} {p : Place} {fields : List (String × Place)} {look : α → β} {depth : Nat}
  {mode : Mode} {slots : Mode → Slots σ} {build : σ → Result α}

theorem Respects.asStructure {view : σ → τ} (hp : p.IsStructure fields)
    (hslots : ∀ inner, mode.enter = .ok inner → (slots inner).Respects fields view depth)
    (hbuild : ∀ s s', view s' = view s → Follows look (build s) (build s')) :
    Respects p look (depth + 1) (Reading.asStructure mode slots build) := by
  intro r r' hr hdepth
  cases hr with
  | same => exact .refl _
  | array hitems =>
    rw [hp.resolve_eq, hp.row_eq, hp.fields_eq] at hitems
    rw [Reading.asStructure, Reading.asStructure]
    cases hmode : mode.enter with
    | error fault => exact .error fault
    | ok inner =>
      exact ((hslots inner hmode).fromItems hitems (Nat.le_of_succ_le_succ hdepth)).bind hbuild
  | object hmembers =>
    rw [hp.resolve_eq, hp.fields_eq] at hmembers
    rw [Reading.asStructure, Reading.asStructure]
    cases hmode : mode.enter with
    | error fault => exact .error fault
    | ok inner =>
      exact ((hslots inner hmode).fill hmembers rfl (Nat.le_of_succ_le_succ hdepth)).bind hbuild

theorem Respects.asStructure_of_view_eq {view : σ → σ} (hp : p.IsStructure fields)
    (hslots : ∀ inner, mode.enter = .ok inner → (slots inner).Respects fields view depth)
    (hview : ∀ s, view s = s) :
    Respects p look (depth + 1) (Reading.asStructure mode slots build) := by
  refine .asStructure hp hslots fun s s' hs => ?_
  rw [hview, hview] at hs
  exact hs ▸ .refl _

end Structure

/-! Maps -/

section Map
variable {α : Type} {decode : Reading → Result α}

def valuesAt (entries : List (String × α)) (key : String) : List (String × α) :=
  entries.filter fun e => e.1 = key

theorem valuesAt_cons (e : String × α) {entries entries' : List (String × α)}
    (h : valuesAt entries' = valuesAt entries) :
    valuesAt (e :: entries') = valuesAt (e :: entries) := by
  funext key
  have hkey : entries'.filter _ = entries.filter _ := congrFun h key
  simp only [valuesAt, List.filter_cons, hkey]

theorem valuesAt_swap {e e' : String × α} (h : e.1 ≠ e'.1) (entries : List (String × α)) :
    valuesAt (e' :: e :: entries) = valuesAt (e :: e' :: entries) := by
  funext key
  by_cases hkey : e.1 = key
  · have hkey' : e'.1 ≠ key := fun heq => h (hkey.trans heq.symm)
    simp [valuesAt, hkey, hkey']
  · simp [valuesAt, hkey, List.filter_cons]

theorem Members.decode_member_member (key key' : String) (value value' : Reading) (rest : Members) :
    (Members.member (some key) value (.member (some key') value' rest)).decode decode = do
      let a ← decode value
      let a' ← decode value'
      let as ← rest.decode decode
      return (key, a) :: (key', a') :: as := by
  simp only [Members.decode, bind_assoc, pure_bind]

theorem Members.decode_follows (hdecode : ∀ depth, Respects .other id depth decode) :
    ∀ {fields : List (String × Place)} {members members' : Members},
      members.Rearranges fields members' → fields = [] →
      Follows valuesAt (members.decode decode) (members'.decode decode)
  | _, _, _, .same, _ => .refl _
  | _, .member none _ _, _, .member _ _, _ => .error _
  | fields, .member (some key) value rest, .member _ value' rest', .member hvalue hrest, hfields => by
    have hplace : Place.ofKey fields (some key) = .other := by rw [hfields]; rfl
    rw [hplace] at hvalue
    refine .bind (hdecode value'.depth value value' hvalue (Nat.le_refl _)) fun a a' (ha : a' = a) => ?_
    refine .bind (decode_follows hdecode hrest hfields) fun as as' has => .ok ?_
    exact ha ▸ valuesAt_cons (key, a) has
  | _, .member none _ _, _, .swap _, _ => .error _
  | _, .member (some key) value (.member none value' rest), _, .swap _, _ => by
    intro as has
    obtain ⟨a, -, has⟩ := bind_eq_ok_iff.1 has
    cases has
  | _, .member (some key) value (.member (some key') value' rest), _, .swap hne, _ => by
    have hne : key ≠ key' := fun heq => nomatch hne (congrArg some heq)
    rw [decode_member_member, decode_member_member]
    refine .comm (decode value) (decode value') fun a a' => ?_
    have hrest : Follows id (rest.decode decode) (rest.decode decode) := .refl _
    refine hrest.bind fun as as' (has : as' = as) => ?_
    rw [has]
    exact .ok (valuesAt_swap hne as)
  | _, _, _, .insert hstructure _ _, hfields => absurd hfields hstructure
  | _, _, _, .trans hfirst hsecond, hfields =>
    (decode_follows hdecode hfirst hfields).trans (decode_follows hdecode hsecond hfields)

theorem Respects.asMap {mode : Mode} {depth : Nat} {decode : Mode → Reading → Result α}
    (h : ∀ inner depth, Respects .other id depth (decode inner)) :
    Respects .other valuesAt depth (Reading.asMap mode decode) := by
  intro r r' hr _
  cases hr with
  | same => exact .refl _
  | array => exact .error _
  | object hmembers =>
    rw [Reading.asMap, Reading.asMap]
    cases mode.enter with
    | error fault => exact .error fault
    | ok inner => exact Members.decode_follows (h inner) hmembers rfl

end Map

/-! Tagged values -/

theorem Respects.asVariant {p : Place} {depth : Nat} (names : List String) :
    Respects p id depth (Reading.asVariant names) :=
  .leaf (fun _ => rfl) fun _ => rfl

theorem Reading.buffer_streaming_iff {r : Reading} {room : Nat} :
    r.buffer (.streaming room) = .ok () ↔ r.isSound room = true := by
  simp [Reading.buffer]

namespace Members

variable {mode : Mode} {key tag : String} {names : List String} {found : Option String}
  {value : Reading} {rest content : Members} {variant : String}

theorem untag_tag (h : key = tag) :
    (member (some key) value rest).untag mode tag names found = .ok (variant, content) ↔
      found = none ∧ ∃ name, value.asVariant names = .ok name ∧
        rest.untag mode tag names (some name) = .ok (variant, content) := by
  rw [untag, if_pos h]
  cases found with
  | some => simp
  | none => simp [bind_eq_ok_iff]

theorem untag_other (h : key ≠ tag) :
    (member (some key) value rest).untag mode tag names found = .ok (variant, content) ↔
      value.buffer mode = .ok () ∧ ∃ later, rest.untag mode tag names found = .ok (variant, later) ∧
        content = .member (some key) value later := by
  rw [untag, if_neg h]
  constructor
  · intro h
    obtain ⟨_, hbuffer, h⟩ := bind_eq_ok_iff.1 h
    obtain ⟨⟨_, later⟩, hlater, h⟩ := bind_eq_ok_iff.1 h
    cases h
    exact ⟨hbuffer, later, hlater, rfl⟩
  · rintro ⟨hbuffer, later, hlater, rfl⟩
    rw [hbuffer]
    simp only [bind, Except.bind, hlater, pure, Except.pure]

/-- Where one of the two is the tag, the content stays as it is. -/
theorem untag_swap {key' : String} {value' : Reading} {fields : List (String × Place)}
    (hne : key ≠ key')
    (h : (member (some key) value (.member (some key') value' rest)).untag mode tag names found =
      .ok (variant, content)) :
    ∃ content', (member (some key') value' (.member (some key) value rest)).untag mode tag names found =
        .ok (variant, content') ∧
      content.Rearranges fields content' := by
  by_cases hkey : key = tag
  · obtain ⟨rfl, name, hname, h⟩ := (untag_tag hkey).1 h
    have hkey' : key' ≠ tag := fun heq => hne (hkey.trans heq.symm)
    obtain ⟨hbuffer, later, hlater, rfl⟩ := (untag_other hkey').1 h
    exact ⟨_, (untag_other hkey').2
      ⟨hbuffer, later, (untag_tag hkey).2 ⟨rfl, name, hname, hlater⟩, rfl⟩, .same⟩
  obtain ⟨hbuffer, _, hsecond, rfl⟩ := (untag_other hkey).1 h
  by_cases hkey' : key' = tag
  · obtain ⟨rfl, name, hname, hlater⟩ := (untag_tag hkey').1 hsecond
    exact ⟨_, (untag_tag hkey').2
      ⟨rfl, name, hname, (untag_other hkey).2 ⟨hbuffer, _, hlater, rfl⟩⟩, .same⟩
  · obtain ⟨hbuffer', later, hlater, rfl⟩ := (untag_other hkey').1 hsecond
    exact ⟨_, (untag_other hkey').2
      ⟨hbuffer', _, (untag_other hkey).2 ⟨hbuffer, later, hlater, rfl⟩, rfl⟩,
      .swap fun heq => absurd (Option.some.inj heq) hne⟩

/-- Without its tag the content is rearranged as a structure of the other fields. -/
theorem untag_rearranges {room : Nat} {fields : List (String × Place)} (hfields : fields ≠ [])
    (htag : tag ∉ fields.map Prod.fst) :
    ∀ {all : List (String × Place)} {members members' : Members} {found : Option String}
      {content : Members}, members.Rearranges all members' → all = (tag, .other) :: fields →
      members'.depth ≤ room → members.untag (.streaming room) tag names found = .ok (variant, content) →
      ∃ content', members'.untag (.streaming room) tag names found = .ok (variant, content') ∧
        content.Rearranges fields content'
  | _, _, _, _, content, .same, _, _, h => ⟨content, h, .same⟩
  | _, .member none _ _, _, _, _, .member _ _, _, _, h => by cases h
  | _, .member (some key) value rest, .member _ value' rest', found, content, .member hvalue hrest,
      hall, hdepth, h => by
    obtain ⟨hhead, htail⟩ := Nat.max_le.1 hdepth
    by_cases hkey : key = tag
    · obtain ⟨rfl, name, hname, hlater⟩ := (untag_tag hkey).1 h
      obtain ⟨content', hcontent', hrearranged⟩ :=
        untag_rearranges hfields htag hrest hall htail hlater
      have hname' := (Respects.asVariant names _ _ hvalue (Nat.le_refl _)).eq_ok hname
      exact ⟨content', (untag_tag hkey).2 ⟨rfl, name, hname', hcontent'⟩, hrearranged⟩
    · obtain ⟨hbuffer, later, hlater, rfl⟩ := (untag_other hkey).1 h
      obtain ⟨content', hcontent', hrearranged⟩ :=
        untag_rearranges hfields htag hrest hall htail hlater
      have hbuffer' := Reading.buffer_streaming_iff.2
        (hvalue.isSound hhead (Reading.buffer_streaming_iff.1 hbuffer))
      rw [hall, Place.ofKey_cons_of_ne hkey] at hvalue
      exact ⟨_, (untag_other hkey).2 ⟨hbuffer', content', hcontent', rfl⟩, .member hvalue hrearranged⟩
  | _, .member none _ _, _, _, _, .swap _, _, _, h => by cases h
  | _, .member (some key) value (.member none value' rest), _, _, _, .swap _, _, _, h => by
    by_cases hkey : key = tag
    · obtain ⟨-, _, -, hlater⟩ := (untag_tag hkey).1 h
      cases hlater
    · obtain ⟨-, _, hlater, -⟩ := (untag_other hkey).1 h
      cases hlater
  | _, .member (some _) _ (.member (some _) _ _), _, _, _, .swap hne, _, _, h =>
    untag_swap (fun heq => nomatch hne (congrArg some heq)) h
  | _, members, .member (some key) value _, found, content, .insert _ hnew hsound, hall, hdepth, h => by
    rw [hall, List.map_cons, List.mem_cons, not_or] at hnew
    have hbuffer := Reading.buffer_streaming_iff.2
      (Reading.isSound_of_depth_le hsound (Nat.max_le.1 hdepth).1)
    exact ⟨_, (untag_other hnew.1).2 ⟨hbuffer, content, h, rfl⟩, .insert hfields hnew.2 hsound⟩
  | _, _, _, _, _, .trans hfirst hsecond, hall, hdepth, h => by
    -- the way to the end gets no less deep, so what stands in the middle fits too
    obtain ⟨middle, hmiddle, hrearranged⟩ :=
      untag_rearranges hfields htag hfirst hall (Nat.le_trans hsecond.depth_le hdepth) h
    obtain ⟨content', hcontent', hrearranged'⟩ :=
      untag_rearranges hfields htag hsecond hall hdepth hmiddle
    exact ⟨content', hcontent', .trans hrearranged hrearranged'⟩

end Members

theorem Place.kind_not_mem_jobFields (kind : String) : "kind" ∉ (jobFields kind).map Prod.fst := by
  by_cases h : kind = "element" <;> simp [jobFields, h]

theorem Members.untag_buffered {room : Nat} {tag : String} {names : List String} {variant : String} :
    ∀ {members content : Members} {found : Option String},
      members.untag (.streaming room) tag names found = .ok (variant, content) →
      members.untag .buffered tag names found = .ok (variant, content)
  | .close, _, _, h => h
  | .broken, _, _, h => nomatch h
  | .member none _ _, _, _, h => nomatch h
  | .member (some key) value rest, content, found, h => by
    by_cases hkey : key = tag
    · obtain ⟨hfound, name, hname, hlater⟩ := (untag_tag hkey).1 h
      exact (untag_tag hkey).2 ⟨hfound, name, hname, untag_buffered hlater⟩
    · obtain ⟨-, later, hlater, hcontent⟩ := (untag_other hkey).1 h
      exact (untag_other hkey).2 ⟨rfl, later, untag_buffered hlater, hcontent⟩

theorem Items.decode_buffer_iff {room : Nat} : ∀ {items : Items},
    (∃ units, items.decode (Reading.buffer (.streaming room)) = .ok units) ↔ items.isSound room = true
  | .close => ⟨fun _ => rfl, fun _ => ⟨_, rfl⟩⟩
  | .broken => ⟨fun ⟨_, h⟩ => (nomatch h), nofun⟩
  | .item value rest => by
    rw [Items.decode, Items.isSound, Bool.and_eq_true, ← decode_buffer_iff,
      ← Reading.buffer_streaming_iff]
    cases value.buffer (.streaming room) <;>
      cases rest.decode (Reading.buffer (.streaming room)) <;>
      simp [bind, Except.bind, pure, Except.pure]

theorem Items.decode_buffered : ∀ {items : Items}, items.isWhole = true →
    ∃ units, items.decode (Reading.buffer .buffered) = .ok units
  | .close, _ => ⟨_, rfl⟩
  | .broken, h => nomatch h
  | .item _ _, h => by
    obtain ⟨units, hunits⟩ := decode_buffered (Bool.and_eq_true_iff.1 h).2
    rw [Items.decode, hunits]
    exact ⟨_, rfl⟩

theorem Items.Rearranges.of_item {row : Nat → Place} {value : Reading} {rest items : Items}
    (h : (Items.item value rest).Rearranges row items) :
    ∃ value' rest', items = .item value' rest' ∧ value.Rearranges (row 0) value' ∧
      rest.Rearranges (fun i => row (i + 1)) rest' := by
  cases h with
  | same => exact ⟨value, rest, rfl, .same, .same⟩
  | item hvalue hrest => exact ⟨_, _, rfl, hvalue, hrest⟩

section Job
variable {room : Nat} {content : Reading} {kind : String}

theorem Members.asTagged_rearranges {members members' : Members}
    (hmembers : members.Rearranges (Place.resolve (.object members) .job).fields members')
    (hdepth : members'.depth ≤ room)
    (h : (Reading.object members).asTagged (.streaming (room + 1)) "kind" ["element", "attribute"] =
      .ok (kind, content)) :
    ∃ content', (Reading.object members').asTagged (.streaming (room + 1)) "kind"
        ["element", "attribute"] = .ok (kind, content') ∧
      content.Rearranges (.untagged kind) content' := by
  obtain ⟨_, hinner, h⟩ := bind_eq_ok_iff.1 h
  cases hinner
  obtain ⟨⟨variant, later⟩, huntag, h⟩ := bind_eq_ok_iff.1 h
  cases h
  have hresolve : Place.resolve (.object members) .job = .tagged kind := by
    rw [Place.resolve, Reading.asTagged]
    simp only [Mode.enter, bind, Except.bind, untag_buffered huntag]
    rfl
  rw [hresolve] at hmembers
  obtain ⟨later', huntag', hrearranged⟩ := untag_rearranges (List.cons_ne_nil _ _)
    (Place.kind_not_mem_jobFields kind) hmembers rfl hdepth huntag
  refine ⟨.object later', ?_, .object hrearranged⟩
  rw [Reading.asTagged, Mode.enter_streaming]
  simp only [bind, Except.bind, huntag']
  rfl

theorem Items.asTagged_rearranges {items items' : Items}
    (hitems : items.Rearranges (Place.resolve (.array items) .job).row items')
    (hdepth : items'.depth ≤ room)
    (h : (Reading.array items).asTagged (.streaming (room + 1)) "kind" ["element", "attribute"] =
      .ok (kind, content)) :
    ∃ content', (Reading.array items').asTagged (.streaming (room + 1)) "kind"
        ["element", "attribute"] = .ok (kind, content') ∧
      content.Rearranges (.untagged kind) content' := by
  obtain ⟨_, hinner, h⟩ := bind_eq_ok_iff.1 h
  cases hinner
  cases items with
  | close => cases h
  | broken => cases h
  | item value rest =>
    obtain ⟨variant, hvariant, h⟩ := bind_eq_ok_iff.1 h
    obtain ⟨units, hunits, h⟩ := bind_eq_ok_iff.1 h
    cases h
    have hsound := decode_buffer_iff.1 ⟨units, hunits⟩
    obtain ⟨_, hbuffered⟩ := decode_buffered (isWhole_of_isSound hsound)
    have hresolve : Place.resolve (.array (.item value rest)) .job = .tagged kind := by
      rw [Place.resolve, Reading.asTagged]
      simp only [Mode.enter, bind, Except.bind, hvariant, hbuffered]
      rfl
    rw [hresolve] at hitems
    obtain ⟨value', rest', rfl, hvalue, hrest⟩ := hitems.of_item
    obtain ⟨hhead, htail⟩ := Nat.max_le.1 hdepth
    have hvariant' := (Respects.asVariant _ _ _ hvalue (Nat.le_refl _)).eq_ok hvariant
    obtain ⟨units', hunits'⟩ := decode_buffer_iff.2 (hrest.isSound htail hsound)
    refine ⟨.array rest', ?_, .array hrest⟩
    rw [Reading.asTagged, Mode.enter_streaming]
    simp only [bind, Except.bind, hvariant', hunits']
    rfl

/-- A job is of one kind however its members stand, and its content is rearranged. -/
theorem Reading.asTagged_rearranges {r r' : Reading} (hr : r.Rearranges .job r')
    (hdepth : r'.depth ≤ room + 1)
    (h : r.asTagged (.streaming (room + 1)) "kind" ["element", "attribute"] = .ok (kind, content)) :
    ∃ content', r'.asTagged (.streaming (room + 1)) "kind" ["element", "attribute"] =
        .ok (kind, content') ∧
      content.Rearranges (.untagged kind) content' := by
  cases hr with
  | same => exact ⟨content, h, .same⟩
  | object hmembers => exact Members.asTagged_rearranges hmembers (Nat.le_of_succ_le_succ hdepth) h
  | array hitems => exact Items.asTagged_rearranges hitems (Nat.le_of_succ_le_succ hdepth) h

end Job

end GameRegistration.Json
