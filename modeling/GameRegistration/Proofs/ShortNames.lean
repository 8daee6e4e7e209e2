import Mathlib.Data.List.Basic
import Mathlib.Data.List.TakeWhile
import GameRegistration.ShortName
import GameRegistration.Proofs.Identifiers
import GameRegistration.Proofs.LowerCase

/-! Generated short names: eight symbols of a digest and then, where that is legal, the extension of
the long name. Lowering changes neither whether it is legal nor what was lowered before. -/
namespace GameRegistration.ShortName

/-! Legal names -/

theorem isLegalTail_iff {wildcards : Bool} {tail : List Char} :
    isLegalTail wildcards tail = true ↔
      tail = [] ∨ ∃ extension, tail = '.' :: extension ∧ extension.length ≤ maxExtension wildcards ∧
        ∀ c ∈ extension, isAllowed wildcards c = true := by
  cases tail with
  | nil => exact ⟨fun _ => .inl rfl, fun _ => rfl⟩
  | cons dot extension =>
    rw [isLegalTail, Bool.and_eq_true, Bool.and_eq_true, beq_iff_eq, decide_eq_true_eq, List.all_eq_true]
    constructor
    · rintro ⟨⟨rfl, hlength⟩, hall⟩
      exact .inr ⟨extension, rfl, hlength, hall⟩
    · rintro (hnil | ⟨_, heq, hlength, hall⟩)
      · cases hnil
      · cases heq
        exact ⟨⟨rfl, hlength⟩, hall⟩

theorem isAllowed_dot (wildcards : Bool) : isAllowed wildcards '.' = false := by
  cases wildcards <;> rfl

theorem dot_notMem {wildcards : Bool} {cs : List Char}
    (h : ∀ c ∈ cs, isAllowed wildcards c = true) : '.' ∉ cs := by
  intro hdot
  have hallowed := h '.' hdot
  rw [isAllowed_dot] at hallowed
  cases hallowed

structure IsBase (wildcards : Bool) (base : List Char) : Prop where
  one_le : 1 ≤ base.length
  length_le : base.length ≤ maxBase wildcards
  isAllowed : ∀ c ∈ base, isAllowed wildcards c = true

/-- Either nothing, or a dot and what follows it. -/
def IsTail (tail : List Char) : Prop := tail = [] ∨ ∃ extension, tail = '.' :: extension

theorem IsTail.of_isLegalTail {wildcards : Bool} {tail : List Char}
    (h : isLegalTail wildcards tail = true) : IsTail tail :=
  (isLegalTail_iff.1 h).imp_right fun ⟨extension, heq, _⟩ => ⟨extension, heq⟩

theorem IsTail.take {tail : List Char} (h : IsTail tail) (n : Nat) : IsTail (tail.take n) := by
  obtain rfl | ⟨extension, rfl⟩ := h
  · exact .inl List.take_nil
  · cases n with
    | zero => exact .inl rfl
    | succ n => exact .inr ⟨extension.take n, rfl⟩

namespace IsBase
variable {wildcards : Bool} {base : List Char} (h : IsBase wildcards base)
include h

theorem ne_dot : ∀ c ∈ base, (c != '.') = true := Text.ne_of_notMem (dot_notMem h.isAllowed)

theorem isLegalChars_append {tail : List Char} (htail : IsTail tail) :
    isLegalChars wildcards (base ++ tail) = isLegalTail wildcards tail := by
  have hall : base.all (ShortName.isAllowed wildcards) = true := List.all_eq_true.2 h.isAllowed
  have hends : tail.takeWhile (· != '.') = [] ∧ tail.dropWhile (· != '.') = tail := by
    obtain rfl | ⟨extension, rfl⟩ := htail
    · exact ⟨rfl, rfl⟩
    · simp
  simp [isLegalChars, List.takeWhile_append_of_pos h.ne_dot, List.dropWhile_append_of_pos h.ne_dot,
    hends.1, hends.2, h.one_le, h.length_le, hall]

theorem isLegalChars : ShortName.isLegalChars wildcards base = true := by
  rw [← List.append_nil base, h.isLegalChars_append (.inl rfl), isLegalTail]

end IsBase

theorem isLegalChars_iff {wildcards : Bool} {cs : List Char} :
    isLegalChars wildcards cs = true ↔
      ∃ base tail, cs = base ++ tail ∧ IsBase wildcards base ∧ isLegalTail wildcards tail = true := by
  constructor
  · intro h
    rw [isLegalChars, Bool.and_eq_true, Bool.and_eq_true, Bool.and_eq_true, List.all_eq_true,
      decide_eq_true_eq, decide_eq_true_eq] at h
    obtain ⟨⟨⟨hone, hlength⟩, hall⟩, htail⟩ := h
    exact ⟨_, _, List.takeWhile_append_dropWhile.symm, ⟨hone, hlength, hall⟩, htail⟩
  · rintro ⟨base, tail, rfl, hbase, htail⟩
    rw [hbase.isLegalChars_append (.of_isLegalTail htail), htail]

theorem mem_of_isLegalChars {wildcards : Bool} {cs : List Char}
    (h : isLegalChars wildcards cs = true) : ∀ c ∈ cs, c = '.' ∨ isAllowed wildcards c = true := by
  obtain ⟨base, tail, rfl, hbase, htail⟩ := isLegalChars_iff.1 h
  refine List.forall_mem_append.2 ⟨fun c hc => .inr (hbase.isAllowed c hc), ?_⟩
  obtain rfl | ⟨extension, rfl, -, hall⟩ := isLegalTail_iff.1 htail
  · exact nofun
  · exact List.forall_mem_cons.2 ⟨.inl rfl, fun c hc => .inr (hall c hc)⟩

theorem isLegalTail_map {wildcards : Bool} {f : Char → Char} {tail : List Char}
    (h : ∀ c ∈ tail, (f c == '.') = (c == '.') ∧ isAllowed wildcards (f c) = isAllowed wildcards c) :
    isLegalTail wildcards (tail.map f) = isLegalTail wildcards tail := by
  cases tail with
  | nil => rfl
  | cons dot extension =>
    rw [List.forall_mem_cons] at h
    have hall : (extension.map f).all (isAllowed wildcards) = extension.all (isAllowed wildcards) := by
      rw [List.all_map, Bool.eq_iff_iff, List.all_eq_true, List.all_eq_true]
      exact forall₂_congr fun c hc => by rw [Function.comp_apply, (h.2 c hc).2]
    rw [List.map_cons, isLegalTail, isLegalTail, List.length_map, hall, h.1.1]

theorem isLegalTail_map_toLower (wildcards : Bool) {tail : List Char}
    (h : ∀ c ∈ tail, c.toNat < 0x80) :
    isLegalTail wildcards (tail.map Char.toLower) = isLegalTail wildcards tail := by
  have hsame : ∀ c : Char, c.toNat < 0x80 → (c.toLower == '.') = (c == '.') ∧
      ∀ wildcards, isAllowed wildcards c.toLower = isAllowed wildcards c :=
    Text.forall_ascii (by decide +kernel)
  exact isLegalTail_map fun c hc => ⟨(hsame c (h c hc)).1, (hsame c (h c hc)).2 wildcards⟩

/-! The base -/

theorem exists_symbol_of_mem_digestChars {digest : List UInt8} (h : digest.length = 20) :
    (digestChars digest).length = 8 ∧
      ∀ c ∈ digestChars digest, ∃ n : Fin 64, fileSymbol (Digest.base64Symbol n) = c := by
  obtain ⟨symbols, fill, heq, hsymbols, -, hlength⟩ := Digest.exists_base64_eq digest
  rw [digestChars, heq, List.take_append_of_le_length (by omega)]
  constructor
  · rw [List.length_map, List.length_take]
    omega
  · intro c hc
    obtain ⟨symbol, hsymbol, rfl⟩ := List.mem_map.1 hc
    obtain ⟨n, rfl⟩ := hsymbols symbol (List.mem_of_mem_take hsymbol)
    exact ⟨n, rfl⟩

/-- The base with small letters, which the name begins with in the end. -/
def baseLetters (name : List Char) (parts : List String) : List Char :=
  (baseChars name parts).map Char.toLower

/-- A character that a base with small letters may hold. -/
def IsBaseLetter (c : Char) : Prop := c.isLower = true ∨ c.isDigit = true ∨ c = '_' ∨ c = '-'

instance (c : Char) : Decidable (IsBaseLetter c) := inferInstanceAs (Decidable (_ ∨ _ ∨ _ ∨ _))

theorem length_baseChars (name : List Char) (parts : List String) :
    (baseChars name parts).length = 8 :=
  (exists_symbol_of_mem_digestChars (Digest.length_sha1 _)).1

theorem mem_baseChars {name : List Char} {parts : List String} {c : Char}
    (h : c ∈ baseChars name parts) :
    c.toNat < 0x80 ∧ IsBaseLetter c.toLower ∧
      ∀ wildcards, isAllowed wildcards c = true ∧ isAllowed wildcards c.toLower = true := by
  have halphabet : ∀ n : Fin 64,
      let c := fileSymbol (Digest.base64Symbol n)
      c.toNat < 0x80 ∧ IsBaseLetter c.toLower ∧
        ∀ wildcards, isAllowed wildcards c = true ∧ isAllowed wildcards c.toLower = true := by
    decide +kernel
  obtain ⟨n, rfl⟩ := (exists_symbol_of_mem_digestChars (Digest.length_sha1 _)).2 c h
  exact halphabet n

theorem length_baseLetters (name : List Char) (parts : List String) :
    (baseLetters name parts).length = 8 := by
  rw [baseLetters, List.length_map, length_baseChars]

theorem isBaseLetter_of_mem {name : List Char} {parts : List String} :
    ∀ c ∈ baseLetters name parts, IsBaseLetter c := by
  intro c hc
  obtain ⟨capital, hcapital, rfl⟩ := List.mem_map.1 hc
  exact (mem_baseChars hcapital).2.1

theorem eight_le_maxBase (wildcards : Bool) : 8 ≤ maxBase wildcards := by cases wildcards <;> decide

theorem isBase_baseChars (wildcards : Bool) (name : List Char) (parts : List String) :
    IsBase wildcards (baseChars name parts) where
  one_le := by rw [length_baseChars]; omega
  length_le := by rw [length_baseChars]; exact eight_le_maxBase wildcards
  isAllowed c hc := ((mem_baseChars hc).2.2 wildcards).1

theorem isBase_baseLetters (wildcards : Bool) (name : List Char) (parts : List String) :
    IsBase wildcards (baseLetters name parts) where
  one_le := by rw [length_baseLetters]; omega
  length_le := by rw [length_baseLetters]; exact eight_le_maxBase wildcards
  isAllowed c hc := by
    obtain ⟨capital, hcapital, rfl⟩ := List.mem_map.1 hc
    exact ((mem_baseChars hcapital).2.2 wildcards).2

/-! The extension -/

theorem extension_of_no_separator {cs : List Char} (h : ∀ c ∈ cs, isSeparator c = false) :
    extension cs = [] := by
  have hnone : cs.reverse.dropWhile (!isSeparator ·) = [] := by
    rw [List.dropWhile_eq_nil_iff]
    intro c hc
    rw [h c (List.mem_reverse.1 hc), Bool.not_false]
  rw [extension, hnone]

theorem extension_append {separator : Char} (front : List Char) {last : List Char}
    (h : isSeparator separator = true) (hlast : ∀ c ∈ last, isSeparator c = false) :
    extension (front ++ separator :: last) =
      if separator = '.' ∧ last ≠ [] then '.' :: last else [] := by
  have hreverse : (front ++ separator :: last).reverse =
      last.reverse ++ separator :: front.reverse := by simp
  have hplain : ∀ c ∈ last.reverse, (!isSeparator c) = true := by
    intro c hc
    rw [hlast c (List.mem_reverse.1 hc), Bool.not_false]
  have hstop : (!isSeparator separator) = false := by rw [h, Bool.not_true]
  rw [extension, hreverse, List.takeWhile_append_of_pos hplain, List.dropWhile_append_of_pos hplain,
    List.takeWhile_cons_of_neg (by simp [hstop]), List.dropWhile_cons_of_neg (by simp [hstop]),
    List.append_nil, List.reverse_reverse]
  by_cases hdot : separator = '.'
  · rw [hdot]
    cases last <;> rfl
  · simp [hdot]

theorem exists_last_separator (cs : List Char) :
    (∀ c ∈ cs, isSeparator c = false) ∨
      ∃ front separator last, cs = front ++ separator :: last ∧ isSeparator separator = true ∧
        ∀ c ∈ last, isSeparator c = false := by
  induction cs with
  | nil => exact .inl nofun
  | cons c rest ih =>
    obtain hnone | ⟨front, separator, last, rfl, h⟩ := ih
    · cases hc : isSeparator c with
      | true => exact .inr ⟨[], c, rest, rfl, hc, hnone⟩
      | false => exact .inl (List.forall_mem_cons.2 ⟨hc, hnone⟩)
    · exact .inr ⟨c :: front, separator, last, rfl, h⟩

theorem extension_eq_cons_iff {cs last : List Char} :
    extension cs = '.' :: last ↔
      last ≠ [] ∧ (∀ c ∈ last, isSeparator c = false) ∧ ∃ front, cs = front ++ '.' :: last := by
  constructor
  · intro h
    obtain hnone | ⟨front, separator, last', rfl, hseparator, hlast⟩ := exists_last_separator cs
    · rw [extension_of_no_separator hnone] at h
      cases h
    · rw [extension_append front hseparator hlast] at h
      split at h
      next hkept =>
        cases h
        exact ⟨hkept.2, hlast, front, by rw [hkept.1]⟩
      next => cases h
  · rintro ⟨hne, hlast, front, rfl⟩
    rw [extension_append front rfl hlast, if_pos ⟨rfl, hne⟩]

theorem extension_cases (cs : List Char) :
    IsTail (extension cs) ∧ extension cs ⊆ cs := by
  obtain hnone | ⟨front, separator, last, rfl, hseparator, hlast⟩ := exists_last_separator cs
  · rw [extension_of_no_separator hnone]
    exact ⟨.inl rfl, List.nil_subset _⟩
  · rw [extension_append front hseparator hlast]
    split
    next hkept =>
      rw [hkept.1]
      exact ⟨.inr ⟨last, rfl⟩, List.subset_append_right _ _⟩
    next => exact ⟨.inl rfl, List.nil_subset _⟩

theorem extension_map_toLower {cs : List Char} (h : ∀ c ∈ cs, c.toNat < 0x80) :
    extension (cs.map Char.toLower) = (extension cs).map Char.toLower := by
  have hsame : ∀ c : Char, c.toNat < 0x80 → isSeparator c.toLower = isSeparator c :=
    Text.forall_ascii (by decide)
  have hkept : ∀ c : Char, c.toNat < 0x80 → isSeparator c = true → c.toLower = c :=
    Text.forall_ascii (by decide)
  obtain hnone | ⟨front, separator, last, rfl, hseparator, hlast⟩ := exists_last_separator cs
  · rw [extension_of_no_separator hnone, extension_of_no_separator]
    · rfl
    · rw [List.forall_mem_map]
      exact fun c hc => (hsame c (h c hc)).trans (hnone c hc)
  · simp only [List.mem_append, List.mem_cons, or_imp, forall_and, forall_eq] at h
    have hsmall : ∀ c ∈ last.map Char.toLower, isSeparator c = false := by
      rw [List.forall_mem_map]
      exact fun c hc => (hsame c (h.2.2 c hc)).trans (hlast c hc)
    rw [List.map_append, List.map_cons, hkept separator h.2.1 hseparator,
      extension_append _ hseparator hsmall, extension_append _ hseparator hlast]
    by_cases hdot : separator = '.' ∧ last ≠ []
    · rw [if_pos hdot, if_pos ⟨hdot.1, by simpa using hdot.2⟩]
      rfl
    · rw [if_neg hdot, if_neg (by simpa using hdot)]
      rfl

/-! The whole name -/

/-- The name that is hashed: small letters, but for a reference. -/
def normalized (name : List Char) : List Char :=
  if isLocalized name then name else Text.lower name

/-- What a generated name may keep of the extension: a dot and three small characters at most. -/
def keptExtension (name : List Char) : List Char := (extension (Text.lower name)).take 4

theorem ascii_of_isLocalized {cs : List Char} (h : isLocalized cs = true) :
    ∀ c ∈ cs, c.toNat < 0x80 := by
  unfold isLocalized at h
  split at h
  next rest =>
    rw [Bool.and_eq_true, beq_iff_eq] at h
    obtain ⟨hlast, hname⟩ := h
    have hrest : ∀ c ∈ rest, c.toNat < 0x80 := by
      intro c hc
      by_cases hparenthesis : c = ')'
      · rw [hparenthesis]
        decide
      · refine Identifier.ascii_of_isPart (Identifier.isPart_of_isLegalChars hname c ?_)
        refine List.mem_dropLast_of_mem_of_ne_getLast? hc ?_
        rw [hlast]
        exact fun heq => hparenthesis (Option.some.inj heq)
    have hopening : ∀ c ∈ "!(loc.".toList, c.toNat < 0x80 := by simp
    exact List.forall_mem_append.2 ⟨hopening, hrest⟩
  next => cases h

theorem lowerFrom_extension (name : List Char) :
    (∀ inWord, Text.lowerFrom inWord ((extension (normalized name)).take 4) = keptExtension name) ∧
      ∀ wildcards, isLegalTail wildcards ((extension (normalized name)).take 4) =
        isLegalTail wildcards (keptExtension name) := by
  unfold normalized keptExtension
  split
  next hlocalized =>
    have hascii := ascii_of_isLocalized hlocalized
    have htaken : ∀ c ∈ (extension name).take 4, c.toNat < 0x80 := fun c hc =>
      hascii c ((extension_cases name).2 (List.mem_of_mem_take hc))
    rw [Text.lower, Text.lowerFrom_of_ascii hascii, extension_map_toLower hascii, ← List.map_take]
    exact ⟨fun inWord => Text.lowerFrom_of_ascii htaken,
      fun wildcards => (isLegalTail_map_toLower wildcards htaken).symm⟩
  next =>
    refine ⟨fun inWord => Text.lowerFrom_eq_self fun c hc => ?_, fun _ => rfl⟩
    exact Text.isSmall_of_mem_lowerFrom ((extension_cases _).2 (List.mem_of_mem_take hc))

theorem generateChars_eq (name : List Char) (keepExtension wildcards : Bool) (parts : List String) :
    generateChars name keepExtension wildcards parts =
      let base := baseLetters (normalized name) parts
      base ++ if keepExtension && isLegalChars wildcards (base ++ keptExtension name) then
        keptExtension name else [] := by
  have hgenerate : generateChars name keepExtension wildcards parts =
      let base := baseChars (normalized name) parts
      let full := base ++ (extension (normalized name)).take 4
      Text.lower (if keepExtension && isLegalChars wildcards full then full else base) := rfl
  have htail : IsTail ((extension (normalized name)).take 4) := (extension_cases _).1.take 4
  have hkept : IsTail (keptExtension name) := (extension_cases _).1.take 4
  obtain ⟨hlower, hlegal⟩ := lowerFrom_extension name
  have hascii : ∀ c ∈ baseChars (normalized name) parts, c.toNat < 0x80 :=
    fun c hc => (mem_baseChars hc).1
  rw [hgenerate]
  dsimp only
  rw [(isBase_baseChars wildcards _ parts).isLegalChars_append htail,
    (isBase_baseLetters wildcards _ parts).isLegalChars_append hkept, hlegal]
  split
  · obtain ⟨inWord, hfull⟩ := Text.exists_lowerFrom_append false hascii
      ((extension (normalized name)).take 4)
    rw [Text.lower, hfull, hlower]
    rfl
  · rw [Text.lower, Text.lowerFrom_of_ascii hascii, List.append_nil]
    rfl

theorem isLegalChars_generateChars (name : List Char) (keepExtension wildcards : Bool)
    (parts : List String) :
    isLegalChars wildcards (generateChars name keepExtension wildcards parts) = true := by
  rw [generateChars_eq]
  dsimp only
  split
  next hkept => exact (Bool.and_eq_true_iff.1 hkept).2
  next =>
    rw [List.append_nil]
    exact (isBase_baseLetters wildcards _ parts).isLegalChars

theorem isLegal_generate (name : String) (keepExtension wildcards : Bool) (parts : List String) :
    isLegal (generate name keepExtension wildcards parts) wildcards = true := by
  rw [isLegal, generate, String.toList_ofList]
  exact isLegalChars_generateChars name.toList keepExtension wildcards parts

/-- What is never allowed is in no legal name, but for the dot. -/
theorem notMem_of_isLegal {name : String} {wildcards : Bool} {c : Char}
    (h : isLegal name wildcards = true) (hc : (c != '.' && !isAllowed wildcards c) = true) :
    c ∉ name.toList := by
  rw [Bool.and_eq_true, bne_iff_ne, Bool.not_eq_true'] at hc
  intro hmem
  obtain hdot | hallowed := mem_of_isLegalChars h c hmem
  · exact hc.1 hdot
  · rw [hc.2] at hallowed
    cases hallowed

theorem separator_notMem_of_isLegal {name : String} {wildcards : Bool}
    (h : isLegal name wildcards = true) : '|' ∉ name.toList :=
  notMem_of_isLegal h (by cases wildcards <;> rfl)

/-- A generated name is legal under the rule it was made for. It begins with eight small letters, digits,
hyphens or underscores, on which neither flag has a say; and behind them is nothing, or the extension of
the long name with small letters and cut to four characters, if that is wanted and leaves a legal name. -/
theorem generate_eq_base_append (name : String) (parts : List String) :
    (∃ base : List Char, base.length = 8 ∧ (∀ c ∈ base, IsBaseLetter c) ∧
      ∀ keepExtension wildcards,
        let short := generate name keepExtension wildcards parts
        let ext := (extension (Text.lower name.toList)).take 4
        isLegal short wildcards = true ∧ short.length ≤ 12 ∧
          short.toList = base ++
            if keepExtension && isLegal (String.ofList (base ++ ext)) wildcards then ext else []) ∧
    (extension (Text.lower name.toList) = [] ∨
      ∃ last, extension (Text.lower name.toList) = '.' :: last) ∧
    ∀ last, extension (Text.lower name.toList) = '.' :: last ↔
      last ≠ [] ∧ (∀ c ∈ last, isSeparator c = false) ∧
        ∃ front, Text.lower name.toList = front ++ '.' :: last := by
  refine ⟨⟨baseLetters (normalized name.toList) parts, length_baseLetters _ _, isBaseLetter_of_mem, ?_⟩,
    ?_, fun last => extension_eq_cons_iff⟩
  · intro keepExtension wildcards
    have heq := generateChars_eq name.toList keepExtension wildcards parts
    have hshort : (generate name keepExtension wildcards parts).toList =
        generateChars name.toList keepExtension wildcards parts := String.toList_ofList
    refine ⟨isLegal_generate name keepExtension wildcards parts, ?_, ?_⟩
    · rw [← String.length_toList, hshort, heq]
      dsimp only
      have hkept : (keptExtension name.toList).length ≤ 4 := List.length_take_le 4 _
      rw [List.length_append, length_baseLetters]
      split
      · omega
      · simp
    · rw [hshort, heq, isLegal, String.toList_ofList]
      rfl
  · exact (extension_cases _).1

/-- The parenthesis that ends a reference is in its extension. -/
example : keptExtension "!(loc.Play.Me)".toList = ".me)".toList := by decide

end GameRegistration.ShortName
