import Mathlib.Data.List.TakeWhile
import Mathlib.Data.Nat.Digits.Lemmas
import GameRegistration.AttributeValue
import GameRegistration.Proofs.GuidText
import GameRegistration.Proofs.LowerCase
import GameRegistration.Proofs.Plan

/-! Spellings of GUIDs. Whichever of the four is used, with whatever blanks around it, the same text
comes back, and it is its own normal form. Any other value is reported once. -/
namespace GameRegistration

namespace Text

/-- What is left of a text without the blanks around it. -/
structure IsTrimmed (cs trimmed : List Char) : Prop where
  surrounded : ∃ front back, cs = front ++ trimmed ++ back ∧
    (∀ c ∈ front, isBlank c = true) ∧ ∀ c ∈ back, isBlank c = true
  head : ∀ c, trimmed.head? = some c → isBlank c = false
  last : ∀ c, trimmed.getLast? = some c → isBlank c = false

theorem dropWhile_isBlank {cs : List Char} (h : ∀ c, cs.head? = some c → isBlank c = false) :
    cs.dropWhile isBlank = cs := by
  cases cs with
  | nil => rfl
  | cons c rest => rw [List.dropWhile_cons_of_neg (by simp [h c rfl])]

theorem head_dropWhile_isBlank {cs : List Char} {c : Char}
    (h : (cs.dropWhile isBlank).head? = some c) : isBlank c = false := by
  have hhead := List.head?_dropWhile_not isBlank cs
  rw [h] at hhead
  exact hhead

theorem exists_eq_trim_append (cs : List Char) :
    ∃ back, cs.dropWhile isBlank = trim cs ++ back ∧ ∀ c ∈ back, isBlank c = true := by
  refine ⟨((cs.dropWhile isBlank).reverse.takeWhile isBlank).reverse, ?_, fun c hc => ?_⟩
  · rw [trim, ← List.reverse_append, List.takeWhile_append_dropWhile, List.reverse_reverse]
  · exact List.mem_takeWhile_imp (List.mem_reverse.1 hc)

theorem isTrimmed_trim (cs : List Char) : IsTrimmed cs (trim cs) := by
  obtain ⟨back, heq, hback⟩ := exists_eq_trim_append cs
  refine ⟨⟨cs.takeWhile isBlank, back, ?_, fun c hc => List.mem_takeWhile_imp hc, hback⟩, ?_, ?_⟩
  · rw [List.append_assoc, ← heq, List.takeWhile_append_dropWhile]
  · intro c hc
    have hne : trim cs ≠ [] := by
      intro hnil
      rw [hnil] at hc
      cases hc
    have hhead : (cs.dropWhile isBlank).head? = some c := by
      rw [heq, List.head?_append_of_ne_nil _ hne, hc]
    exact head_dropWhile_isBlank hhead
  · intro c hc
    rw [trim, List.getLast?_reverse] at hc
    exact head_dropWhile_isBlank hc

theorem IsTrimmed.eq_trim {cs trimmed : List Char} (h : IsTrimmed cs trimmed) :
    trimmed = trim cs := by
  obtain ⟨⟨front, back, rfl, hfront, hback⟩, hhead, hlast⟩ := h
  rw [List.append_assoc, trim, List.dropWhile_append_of_pos hfront]
  by_cases hnil : trimmed = []
  · rw [hnil, List.nil_append, List.dropWhile_eq_nil_iff.2 hback]
    rfl
  · have hkept : (trimmed ++ back).dropWhile isBlank = trimmed ++ back :=
      dropWhile_isBlank fun c hc => hhead c (by rwa [List.head?_append_of_ne_nil _ hnil] at hc)
    rw [hkept, List.reverse_append,
      List.dropWhile_append_of_pos fun c hc => hback c (List.mem_reverse.1 hc),
      dropWhile_isBlank fun c hc => hlast c (by rwa [List.head?_reverse] at hc),
      List.reverse_reverse]

/-- The character stands for the digit, in either letter case. -/
def IsHexDigit (d : Fin 16) (c : Char) : Prop :=
  "0123456789abcdef".toList[d.val]? = some c ∨ "0123456789ABCDEF".toList[d.val]? = some c

instance (d : Fin 16) (c : Char) : Decidable (IsHexDigit d c) :=
  inferInstanceAs (Decidable (_ ∨ _))

theorem ascii_of_hexDigit? {c : Char} {d : Fin 16} (h : hexDigit? c = some d) : c.toNat < 0x80 := by
  unfold hexDigit? at h
  simp only [Char.le_def, UInt32.le_iff_toNat_le] at h
  change c.val.toNat < 0x80
  split at h
  · next hc => exact Nat.lt_of_le_of_lt hc.2 (by decide)
  · split at h
    · next hc => exact Nat.lt_of_le_of_lt hc.2 (by decide)
    · split at h
      · next hc => exact Nat.lt_of_le_of_lt hc.2 (by decide)
      · cases h

theorem hexDigit?_eq_some_iff {c : Char} {d : Fin 16} : hexDigit? c = some d ↔ IsHexDigit d c := by
  constructor
  · intro h
    have hall : ∀ n < 0x80, ∀ d, hexDigit? (Char.ofNat n) = some d → IsHexDigit d (Char.ofNat n) := by
      decide +kernel
    exact forall_ascii (P := fun c => ∀ d, hexDigit? c = some d → IsHexDigit d c) hall c
      (ascii_of_hexDigit? h) d h
  · have hread {letters : String}
        (hall : ∀ d : Fin 16, (letters.toList[d.val]?).all (hexDigit? · = some d) = true)
        (h : letters.toList[d.val]? = some c) : hexDigit? c = some d := by
      have hd := hall d
      rw [h] at hd
      exact of_decide_eq_true hd
    exact fun h => h.elim (hread (by decide)) (hread (by decide))

end Text

namespace Guid

/-- The characters in five groups, with hyphens between them. -/
def Hyphenates (digits text : List Char) : Prop :=
  ∃ groups : List (List Char), groups.map List.length = [8, 4, 4, 4, 12] ∧
    groups.flatten = digits ∧ text = ['-'].intercalate groups

theorem mapM_hexDigit?_eq_some_iff {cs : List Char} {digits : List (Fin 16)} :
    cs.mapM Text.hexDigit? = some digits ↔ List.Forall₂ Text.IsHexDigit digits cs := by
  induction cs generalizing digits with
  | nil => simp [eq_comm]
  | cons c rest ih =>
    simp only [List.mapM_cons, Option.bind_eq_bind, Option.bind_eq_some_iff, Option.pure_def,
      Option.some_inj, ih, Text.hexDigit?_eq_some_iff, List.forall₂_cons_right_iff]
    constructor
    · rintro ⟨d, hd, later, hlater, rfl⟩
      exact ⟨d, later, hd, hlater, rfl⟩
    · rintro ⟨d, later, hd, hlater, rfl⟩
      exact ⟨d, hd, later, hlater, rfl⟩

/-- The characters stand for the digits of the GUID, in any letter case. -/
def HasDigits (g : Guid) (cs : List Char) : Prop := List.Forall₂ Text.IsHexDigit g.digits cs

theorem HasDigits.length_eq {g : Guid} {cs : List Char} (h : g.HasDigits cs) : cs.length = 32 :=
  (List.Forall₂.length_eq h).symm.trans g.length_digits

theorem ofPlain?_eq_some_iff {g : Guid} {cs : List Char} : ofPlain? cs = some g ↔ g.HasDigits cs := by
  constructor
  · intro h
    obtain ⟨digits, hdigits, h⟩ := Option.bind_eq_some_iff.1 h
    split at h
    · cases h
      exact mapM_hexDigit?_eq_some_iff.1 hdigits
    · cases h
  · intro h
    obtain ⟨digits, hlength⟩ := g
    rw [ofPlain?, mapM_hexDigit?_eq_some_iff.2 h]
    exact dif_pos hlength

theorem ofHyphenated?_eq_some_iff {g : Guid} {cs : List Char} :
    ofHyphenated? cs = some g ↔ ∃ digits, g.HasDigits digits ∧ Hyphenates digits cs := by
  rw [ofHyphenated?, Option.bind_eq_some_iff]
  simp only [splitGroups_eq_some_iff, ofPlain?_eq_some_iff]
  exact exists_congr fun digits => and_comm

theorem Hyphenates.length_eq {digits text : List Char} (h : Hyphenates digits text) :
    text.length = 36 := by
  obtain ⟨groups, hlengths, -, rfl⟩ := h
  exact length_intercalate_groups hlengths

theorem ofBraced?_eq_some_iff {g : Guid} {cs : List Char} :
    ofBraced? cs = some g ↔
      ∃ text, ofHyphenated? text = some g ∧ cs = '{' :: text ++ ['}'] := by
  constructor
  · intro h
    unfold ofBraced? at h
    split at h
    next rest =>
      rw [Option.ite_none_right_eq_some] at h
      obtain ⟨hlast, hrest⟩ := h
      obtain ⟨text, rfl⟩ := List.getLast?_eq_some_iff.1 hlast
      rw [List.dropLast_concat] at hrest
      exact ⟨text, hrest, rfl⟩
    next => cases h
  · rintro ⟨text, htext, rfl⟩
    rw [List.cons_append, ofBraced?, List.getLast?_concat, if_pos rfl, List.dropLast_concat, htext]

def IsScheme (cs : List Char) : Prop := cs.map Char.toLower = urnScheme

theorem ofUrn?_eq_some_iff {g : Guid} {cs : List Char} :
    ofUrn? cs = some g ↔
      ∃ scheme text, IsScheme scheme ∧ ofHyphenated? text = some g ∧ cs = scheme ++ text := by
  rw [ofUrn?, Option.ite_none_right_eq_some]
  constructor
  · rintro ⟨hscheme, htext⟩
    exact ⟨_, _, hscheme, htext, (List.take_append_drop _ _).symm⟩
  · rintro ⟨scheme, text, hscheme, htext, rfl⟩
    have hlength : scheme.length = urnScheme.length := by rw [← hscheme, List.length_map]
    rw [List.take_left' hlength, List.drop_left' hlength]
    exact ⟨hscheme, htext⟩

/-- The ways to write digits: by themselves, in groups, with braces around the groups, or with a
scheme in front of them. -/
inductive Spells (IsScheme : List Char → Prop) (digits : List Char) : List Char → Prop
  | plain : Spells IsScheme digits digits
  | hyphenated {text : List Char} (h : Hyphenates digits text) : Spells IsScheme digits text
  | braced {text : List Char} (h : Hyphenates digits text) :
    Spells IsScheme digits ('{' :: text ++ ['}'])
  | named {scheme text : List Char} (hscheme : IsScheme scheme) (h : Hyphenates digits text) :
    Spells IsScheme digits (scheme ++ text)

theorem ofPlain?_eq_none {cs : List Char} (h : cs.length ≠ 32) : ofPlain? cs = none :=
  Option.eq_none_iff_forall_ne_some.2 fun _ hg => h (ofPlain?_eq_some_iff.1 hg).length_eq

theorem ofHyphenated?_eq_none {cs : List Char} (h : cs.length ≠ 36) : ofHyphenated? cs = none := by
  refine Option.eq_none_iff_forall_ne_some.2 fun g hg => ?_
  obtain ⟨digits, -, htext⟩ := ofHyphenated?_eq_some_iff.1 hg
  exact h htext.length_eq

theorem ofBraced?_eq_none {cs : List Char} (h : cs.length ≠ 38) : ofBraced? cs = none := by
  refine Option.eq_none_iff_forall_ne_some.2 fun g hg => h ?_
  obtain ⟨text, htext, rfl⟩ := ofBraced?_eq_some_iff.1 hg
  obtain ⟨digits, -, htext⟩ := ofHyphenated?_eq_some_iff.1 htext
  rw [List.length_append, List.length_cons, htext.length_eq]
  rfl

/-- The readers do not get in each other's way: what they read differs in length. -/
theorem ofChars?_eq_some_iff {g : Guid} {cs : List Char} :
    ofChars? cs = some g ↔ ∃ digits, g.HasDigits digits ∧ Spells IsScheme digits cs := by
  unfold ofChars?
  constructor
  · intro h
    simp only [Option.orElse_eq_orElse, Option.orElse_eq_or, Option.or_eq_some_iff] at h
    obtain h | ⟨-, h | ⟨-, h | ⟨-, h⟩⟩⟩ := h
    · exact ⟨cs, ofPlain?_eq_some_iff.1 h, .plain⟩
    · obtain ⟨digits, hdigits, htext⟩ := ofHyphenated?_eq_some_iff.1 h
      exact ⟨digits, hdigits, .hyphenated htext⟩
    · obtain ⟨text, htext, rfl⟩ := ofBraced?_eq_some_iff.1 h
      obtain ⟨digits, hdigits, htext⟩ := ofHyphenated?_eq_some_iff.1 htext
      exact ⟨digits, hdigits, .braced htext⟩
    · obtain ⟨scheme, text, hscheme, htext, rfl⟩ := ofUrn?_eq_some_iff.1 h
      obtain ⟨digits, hdigits, htext⟩ := ofHyphenated?_eq_some_iff.1 htext
      exact ⟨digits, hdigits, .named hscheme htext⟩
  · rintro ⟨digits, hdigits, hspells⟩
    cases hspells with
    | plain => rw [ofPlain?_eq_some_iff.2 hdigits]; rfl
    | hyphenated h =>
      rw [ofPlain?_eq_none (by rw [h.length_eq]; decide),
        ofHyphenated?_eq_some_iff.2 ⟨digits, hdigits, h⟩]
      rfl
    | @braced text h =>
      have hlength : ('{' :: text ++ ['}']).length = 38 := by
        rw [List.length_append, List.length_cons, h.length_eq]
        rfl
      rw [ofPlain?_eq_none (by rw [hlength]; decide), ofHyphenated?_eq_none (by rw [hlength]; decide),
        ofBraced?_eq_some_iff.2 ⟨text, ofHyphenated?_eq_some_iff.2 ⟨digits, hdigits, h⟩, rfl⟩]
      rfl
    | @named scheme text hscheme h =>
      have hlength : (scheme ++ text).length = 45 := by
        rw [List.length_append, h.length_eq, ← List.length_map (f := Char.toLower), hscheme]
        rfl
      rw [ofPlain?_eq_none (by rw [hlength]; decide), ofHyphenated?_eq_none (by rw [hlength]; decide),
        ofBraced?_eq_none (by rw [hlength]; decide),
        ofUrn?_eq_some_iff.2 ⟨scheme, text, hscheme,
          ofHyphenated?_eq_some_iff.2 ⟨digits, hdigits, h⟩, rfl⟩]
      rfl

/-- The text gives the GUID in one of its spellings, with or without blanks around it. -/
def IsGivenBy (g : Guid) (text : String) : Prop :=
  ∃ spelling digits, Text.IsTrimmed text.toList spelling ∧ g.HasDigits digits ∧
    Spells IsScheme digits spelling

theorem parse?_eq_some_iff {g : Guid} {text : String} :
    parse? text = some g ↔ g.IsGivenBy text := by
  rw [parse?, ofChars?_eq_some_iff]
  constructor
  · rintro ⟨digits, hdigits, hspells⟩
    exact ⟨_, digits, Text.isTrimmed_trim _, hdigits, hspells⟩
  · rintro ⟨spelling, digits, htrimmed, hdigits, hspells⟩
    rw [htrimmed.eq_trim] at hspells
    exact ⟨digits, hdigits, hspells⟩

/-- The 128 bits, the first digit highest. -/
def bits (g : Guid) : BitVec 128 :=
  BitVec.ofNat 128 (Nat.ofDigits 16 (g.digits.reverse.map Fin.val))

theorem bits_injective : Function.Injective bits := by
  intro g g' h
  have hdigit (g : Guid) : ∀ n ∈ g.digits.reverse.map Fin.val, n < 16 := by simp
  have hlength (g : Guid) : (g.digits.reverse.map Fin.val).length = 32 := by
    rw [List.length_map, List.length_reverse, g.length_digits]
  have hlt (g : Guid) : Nat.ofDigits 16 (g.digits.reverse.map Fin.val) < 2 ^ 128 := by
    have hbound := Nat.ofDigits_lt_base_pow_length (by decide) (hdigit g)
    rw [hlength] at hbound
    exact Nat.lt_of_lt_of_eq hbound (by decide)
  have hvalue := congrArg BitVec.toNat h
  rw [bits, bits, BitVec.toNat_ofNat, BitVec.toNat_ofNat, Nat.mod_eq_of_lt (hlt g),
    Nat.mod_eq_of_lt (hlt g')] at hvalue
  have hdigits := Nat.ofDigits_inj_of_len_eq (by decide) ((hlength g).trans (hlength g').symm)
    (hdigit g) (hdigit g') hvalue
  cases g
  cases g'
  simpa [List.map_inj_right (fun _ _ => Fin.ext), List.reverse_inj] using hdigits

/-- The one form that is written: capital digits in groups and braces. -/
def IsWrittenAs (g : Guid) (text : String) : Prop :=
  ∃ digits grouped,
    List.Forall₂ (fun d c => "0123456789ABCDEF".toList[d.val]? = some c) g.digits digits ∧
      Hyphenates digits grouped ∧ text.toList = '{' :: grouped ++ ['}']

theorem isWrittenAs_text (g : Guid) : g.IsWrittenAs g.text := by
  have hlength : (g.digits.map Text.hexUpper).length = groupSizes.sum := by
    rw [List.length_map, g.length_digits]
    rfl
  have hupper : ∀ d : Fin 16, "0123456789ABCDEF".toList[d.val]? = some (Text.hexUpper d) := by decide
  refine ⟨_, _, ?_, splitGroups_eq_some_iff.1 (splitGroups_joinGroups hlength), ?_⟩
  · rw [List.forall₂_map_right_iff, List.forall₂_same]
    exact fun d _ => hupper d
  · rw [text, String.toList_ofList, chars]
    rfl

namespace IsWrittenAs
variable {g : Guid} {text : String}

theorem length_eq (h : g.IsWrittenAs text) : text.length = 38 := by
  obtain ⟨digits, grouped, -, hgrouped, htext⟩ := h
  rw [← String.length_toList, htext, List.length_append, List.length_cons, hgrouped.length_eq]
  rfl

theorem isGivenBy (h : g.IsWrittenAs text) : g.IsGivenBy text := by
  obtain ⟨digits, grouped, hdigits, hgrouped, htext⟩ := h
  refine ⟨_, digits, ⟨⟨[], [], ?_, by simp, by simp⟩, ?_, ?_⟩, hdigits.imp fun _ _ => .inr,
    .braced hgrouped⟩
  · rw [htext, List.nil_append, List.append_nil]
  · rintro c hc
    cases hc
    decide
  · rintro c hc
    rw [List.getLast?_concat] at hc
    cases hc
    decide

end IsWrittenAs

end Guid

namespace AttributeValue
variable (source : SourcePosition) (element : String) {attr : Attribute}

theorem guid_of_isGivenBy {g : Guid} (h : g.IsGivenBy attr.value) :
    guid source element attr = { value := g.text } := by
  have hparse := Guid.parse?_eq_some_iff.2 h
  have hne : attr.value ≠ "" := by
    intro hempty
    have hnone : Guid.parse? "" = none := by decide
    rw [hempty, hnone] at hparse
    cases hparse
  rw [guid, if_neg hne, hparse]

def guidProblem (element : String) (attr : Attribute) : Problem :=
  if attr.value = "" then .emptyAttribute element attr.localName
  else .illegalGuid element attr.localName attr.value

theorem guid_of_not_isGivenBy (h : ¬ ∃ g : Guid, g.IsGivenBy attr.value) :
    guid source element attr =
      { value := attr.value, actions := [.error source (guidProblem element attr)] } := by
  have hparse : Guid.parse? attr.value = none :=
    Option.eq_none_iff_forall_ne_some.2 fun g hg => h ⟨g, Guid.parse?_eq_some_iff.1 hg⟩
  unfold guid guidProblem text
  by_cases hempty : attr.value = ""
  · rw [if_pos hempty, if_pos hempty, if_pos hempty]
  · rw [if_neg hempty, if_neg hempty, hparse]

/-- A value is either a GUID in some spelling, and then becomes its written form without a word, or it
is reported once and left as it is. -/
theorem guid_canonical (setup : Setup) (sink : Journal) (source : SourcePosition) (element : String)
    (attr : Attribute) :
    let result := guid source element attr
    let after := sink ++ performAll setup result.actions
    (after.diagnostics = sink.diagnostics ↔ ∃ g : Guid, g.IsGivenBy attr.value) ∧
    (∀ g : Guid, g.IsGivenBy attr.value →
      after = sink ∧ g.IsWrittenAs result.value ∧ result.value.length = 38 ∧
      (∀ source' element' (other : Attribute) (g' : Guid), g'.IsGivenBy other.value →
        (result.value = (guid source' element' other).value ↔ g.bits = g'.bits)) ∧
      ∀ source' element' (other : Attribute), other.value = result.value →
        guid source' element' other = { value := result.value, actions := [] }) ∧
    ((¬ ∃ g : Guid, g.IsGivenBy attr.value) → result.value = attr.value ∧
      after.diagnostics = sink.diagnostics ++ [⟨source, .error,
        if attr.value = "" then .emptyAttribute element attr.localName
        else .illegalGuid element attr.localName attr.value⟩]) := by
  intro result after
  have hgiven {g : Guid} (h : g.IsGivenBy attr.value) : result.value = g.text ∧ after = sink := by
    have hresult : result = { value := g.text } := guid_of_isGivenBy source element h
    refine ⟨by rw [hresult], ?_⟩
    simp only [after, hresult]
    exact Journal.append_empty sink
  have hrejected (h : ¬ ∃ g : Guid, g.IsGivenBy attr.value) : result.value = attr.value ∧
      after.diagnostics = sink.diagnostics ++ [⟨source, .error, guidProblem element attr⟩] := by
    have hresult := guid_of_not_isGivenBy source element h
    refine ⟨by simp only [result, hresult], ?_⟩
    simp only [after, result, hresult, performAll_singleton, Journal.diagnostics_append]
    rfl
  refine ⟨⟨fun hquiet => ?_, fun ⟨g, h⟩ => by rw [(hgiven h).2]⟩, fun g h => ?_, hrejected⟩
  · by_contra hnone
    rw [(hrejected hnone).2] at hquiet
    simpa using congrArg List.length hquiet
  · obtain ⟨hvalue, hafter⟩ := hgiven h
    have hwritten : g.IsWrittenAs result.value := hvalue ▸ g.isWrittenAs_text
    refine ⟨hafter, hwritten, hwritten.length_eq, fun source' element' other g' h' => ?_,
      fun source' element' other hother => ?_⟩
    · rw [hvalue, guid_of_isGivenBy source' element' h', Guid.text_injective.eq_iff,
        Guid.bits_injective.eq_iff]
    · have hagain : g.IsGivenBy other.value := hother ▸ hwritten.isGivenBy
      rw [guid_of_isGivenBy source' element' hagain, hvalue]

def capitalName : Attribute where
  name := { localName := "Id" }
  value := "URN:UUID:12345678-1234-5678-90ab-1234567890ab"

/-- Without a word this is read, though its scheme is not spelled `urn:uuid:`. -/
theorem guid_capitalName :
    (performAll {} (guid {} "Game" capitalName).actions).diagnostics = [] ∧
      ¬ ∃ (g : Guid) (spelling digits : List Char),
        Text.IsTrimmed capitalName.value.toList spelling ∧ g.HasDigits digits ∧
          Guid.Spells (· = "urn:uuid:".toList) digits spelling := by
  refine ⟨by decide, ?_⟩
  rintro ⟨g, spelling, digits, htrimmed, hdigits, hspells⟩
  have hspelling : spelling = "URN:UUID:12345678-1234-5678-90ab-1234567890ab".toList := by
    rw [htrimmed.eq_trim]
    decide
  have hlength : spelling.length = 45 := by rw [hspelling]; decide
  cases hspells with
  | plain => exact absurd (hdigits.length_eq.symm.trans hlength) (by decide)
  | hyphenated h => exact absurd (h.length_eq.symm.trans hlength) (by decide)
  | braced h =>
    rw [List.length_append, List.length_cons, h.length_eq] at hlength
    exact absurd hlength (by decide)
  | named hscheme h =>
    rw [hscheme] at hspelling
    have hhead : some 'u' = some 'U' := congrArg List.head? hspelling
    exact absurd hhead (by decide)

end AttributeValue

end GameRegistration
