import Mathlib.Algebra.GroupWithZero.Nat
import GameRegistration.Guid

/-! GUIDs as text. A GUID is written as five groups of digits in braces. What is written can be read
back, so that the text tells which GUID it is. -/
namespace GameRegistration.Guid

theorem splitGroups_eq_some_iff {sizes : List Nat} {cs digits : List Char} :
    splitGroups sizes cs = some digits ↔ ∃ groups : List (List Char),
      groups.map List.length = sizes ∧ groups.flatten = digits ∧ cs = ['-'].intercalate groups := by
  induction sizes generalizing cs digits with
  | nil =>
    rw [splitGroups, Option.ite_none_right_eq_some, Option.some_inj, List.isEmpty_iff]
    constructor
    · rintro ⟨rfl, rfl⟩
      exact ⟨[], rfl, rfl, rfl⟩
    · rintro ⟨groups, hlengths, rfl, rfl⟩
      rw [List.map_eq_nil_iff.1 hlengths]
      exact ⟨rfl, rfl⟩
  | cons size sizes ih =>
    -- only a group with another one behind it ends in a hyphen
    cases sizes with
    | nil =>
      rw [splitGroups, Option.ite_none_right_eq_some, Option.some_inj]
      constructor
      · rintro ⟨hlength, rfl⟩
        exact ⟨[cs], by simp [hlength], by simp, by simp⟩
      · rintro ⟨groups, hlengths, rfl, rfl⟩
        obtain ⟨group, rest, rfl, hlength, hrest⟩ := List.map_eq_cons_iff.1 hlengths
        rw [List.map_eq_nil_iff.1 hrest, List.intercalate_singleton, List.flatten_singleton]
        exact ⟨hlength, rfl⟩
    | cons size' sizes =>
      constructor
      · intro h
        unfold splitGroups at h
        split at h
        next rest hdrop =>
          obtain ⟨digits', hrest, rfl⟩ := Option.map_eq_some_iff.1 h
          obtain ⟨groups, hlengths, rfl, rfl⟩ := ih.1 hrest
          have hne : groups ≠ [] := by
            rintro rfl
            cases hlengths
          have hsize : size ≤ cs.length := by
            have hpositive := congrArg List.length hdrop
            rw [List.length_drop, List.length_cons] at hpositive
            omega
          refine ⟨cs.take size :: groups, ?_, rfl, ?_⟩
          · rw [List.map_cons, hlengths, List.length_take_of_le hsize]
          · rw [List.intercalate_cons_of_ne_nil hne, List.append_assoc, List.singleton_append, ← hdrop,
              List.take_append_drop]
        next => cases h
      · rintro ⟨groups, hlengths, rfl, rfl⟩
        obtain ⟨group, rest, rfl, hlength, hrest⟩ := List.map_eq_cons_iff.1 hlengths
        have hne : rest ≠ [] := by
          rintro rfl
          cases hrest
        rw [List.intercalate_cons_of_ne_nil hne, List.append_assoc, List.singleton_append, splitGroups,
          List.drop_left' hlength, List.take_left' hlength]
        · simp only [ih.2 ⟨rest, hrest, rfl, rfl⟩, Option.map_some, List.flatten_cons]
        · exact List.cons_ne_nil _ _

theorem splitGroups_joinGroups {sizes : List Nat} {cs : List Char} (h : cs.length = sizes.sum) :
    splitGroups sizes (joinGroups sizes cs) = some cs := by
  fun_induction joinGroups sizes cs with
  | case1 cs =>
    have hnil : cs = [] := List.length_eq_zero_iff.1 h
    rw [hnil]
    rfl
  | case2 size cs =>
    have hlength : cs.length = size := by simpa using h
    rw [List.take_of_length_le (Nat.le_of_eq hlength), splitGroups, if_pos hlength]
  | case3 size sizes cs hsizes ih =>
    rw [List.sum_cons] at h
    have hfront : (cs.take size).length = size := by
      rw [List.length_take]
      omega
    have hback := ih (by rw [List.length_drop]; omega)
    cases sizes with
    | nil => exact absurd rfl hsizes
    | cons size' sizes =>
      rw [splitGroups, List.drop_left' hfront, List.take_left' hfront]
      · simp only [hback, Option.map_some, List.take_append_drop]
      · exact List.cons_ne_nil _ _

theorem mapM_hexDigit?_map_hexUpper (digits : List (Fin 16)) :
    (digits.map Text.hexUpper).mapM Text.hexDigit? = some digits := by
  induction digits with
  | nil => rfl
  | cons d rest ih => simp [List.mapM_cons, Text.hexDigit?_hexUpper, ih]

theorem ofPlain?_map_hexUpper (g : Guid) : ofPlain? (g.digits.map Text.hexUpper) = some g := by
  rw [ofPlain?, mapM_hexDigit?_map_hexUpper]
  exact dif_pos g.length_digits

theorem ofHyphenated?_joinGroups (g : Guid) :
    ofHyphenated? (joinGroups groupSizes (g.digits.map Text.hexUpper)) = some g := by
  have hlength : (g.digits.map Text.hexUpper).length = groupSizes.sum := by
    rw [List.length_map, g.length_digits]
    rfl
  rw [ofHyphenated?, splitGroups_joinGroups hlength, Option.bind_some, ofPlain?_map_hexUpper]

theorem ofBraced?_chars (g : Guid) : ofBraced? g.chars = some g := by
  rw [chars, List.cons_append, ofBraced?, List.getLast?_concat, if_pos rfl, List.dropLast_concat,
    ofHyphenated?_joinGroups]

theorem text_injective : Function.Injective text := by
  intro g g' h
  have hchars : g.chars = g'.chars := String.ofList_injective h
  have hread := ofBraced?_chars g
  rw [hchars, ofBraced?_chars] at hread
  exact (Option.some.inj hread).symm

/-- Five groups of capital hexadecimal digits, with hyphens between them and in braces. -/
def IsBraced (id : String) : Prop :=
  ∃ groups : List (List Char), groups.map List.length = [8, 4, 4, 4, 12] ∧
    (∀ group ∈ groups, ∀ c ∈ group, c ∈ "0123456789ABCDEF".toList) ∧
    id.toList = '{' :: ['-'].intercalate groups ++ ['}']

theorem isBraced_text (g : Guid) : IsBraced g.text := by
  have hlength : (g.digits.map Text.hexUpper).length = groupSizes.sum := by
    rw [List.length_map, g.length_digits]
    rfl
  obtain ⟨groups, hlengths, hflatten, heq⟩ :=
    splitGroups_eq_some_iff.1 (splitGroups_joinGroups hlength)
  refine ⟨groups, hlengths, fun group hgroup c hc => ?_, ?_⟩
  · have hdigits : ∀ d, Text.hexUpper d ∈ "0123456789ABCDEF".toList := by decide
    have hmem : c ∈ g.digits.map Text.hexUpper := hflatten ▸ List.mem_flatten_of_mem hgroup hc
    obtain ⟨d, -, rfl⟩ := List.mem_map.1 hmem
    exact hdigits d
  · rw [text, String.toList_ofList, chars, heq]

theorem length_intercalate {groups : List (List Char)} (h : groups ≠ []) :
    (['-'].intercalate groups).length + 1 = (groups.map List.length).sum + groups.length := by
  induction groups with
  | nil => exact absurd rfl h
  | cons group rest ih =>
    by_cases hrest : rest = []
    · rw [hrest, List.intercalate_singleton]
      simp
    · have hlater := ih hrest
      rw [List.intercalate_cons_of_ne_nil hrest]
      simp only [List.length_append, List.map_cons, List.sum_cons, List.length_cons, List.length_nil]
      omega

theorem length_intercalate_groups {groups : List (List Char)}
    (h : groups.map List.length = [8, 4, 4, 4, 12]) : (['-'].intercalate groups).length = 36 := by
  have hcount : groups.length = 5 := by
    rw [← List.length_map (f := List.length), h]
    rfl
  have hne : groups ≠ [] := by
    rintro rfl
    cases hcount
  have hjoin := length_intercalate hne
  rw [h, hcount] at hjoin
  exact Nat.add_right_cancel hjoin

theorem IsBraced.length_eq {id : String} (h : IsBraced id) : id.length = 38 := by
  obtain ⟨groups, hlengths, -, heq⟩ := h
  rw [← String.length_toList, heq, List.length_append, List.length_cons,
    length_intercalate_groups hlengths]
  rfl

end GameRegistration.Guid
