import Mathlib.Computability.Language
import GameRegistration.Proofs.ShortNames

/-! The pattern of short names, as a language over characters. The recogniser accepts its words and
nothing else, and a line break counts like a letter. -/
namespace GameRegistration.ShortName

/-! The pattern -/

def noneOf (excluded : List Char) : Language Char :=
  { cs : List Char | ∃ c, c ∉ excluded ∧ cs = [c] }

def repeated (least most : Nat) (l : Language Char) : Language Char :=
  { cs : List Char | ∃ n, least ≤ n ∧ n ≤ most ∧ cs ∈ l ^ n }

def pattern (excluded : List Char) (longestBase longestExtension : Nat) : Language Char :=
  repeated 1 longestBase (noneOf excluded) *
    (1 + {['.']} * repeated 0 longestExtension (noneOf excluded))

def excluded (wildcards : Bool) : List Char :=
  if wildcards then "\\|><:/\"+,;=[]. ".toList else "\\?|><:/*\"+,;=[]. ".toList

def namePattern (wildcards : Bool) : Language Char :=
  if wildcards then pattern (excluded true) 16 6 else pattern (excluded false) 8 3

/-! Its words -/

theorem mem_noneOf_pow {excluded cs : List Char} {n : Nat} :
    cs ∈ noneOf excluded ^ n ↔ cs.length = n ∧ ∀ c ∈ cs, c ∉ excluded := by
  induction n generalizing cs with
  | zero =>
    rw [pow_zero, Language.mem_one, List.length_eq_zero_iff, iff_self_and]
    rintro rfl
    exact nofun
  | succ n ih =>
    rw [pow_succ', Language.mem_mul]
    constructor
    · rintro ⟨_, ⟨c, hc, rfl⟩, rest, hrest, rfl⟩
      obtain ⟨hlength, hall⟩ := ih.1 hrest
      exact ⟨congrArg Nat.succ hlength, List.forall_mem_cons.2 ⟨hc, hall⟩⟩
    · rintro ⟨hlength, hall⟩
      obtain ⟨c, rest, rfl⟩ := List.exists_cons_of_length_eq_add_one hlength
      obtain ⟨hc, hrest⟩ := List.forall_mem_cons.1 hall
      exact ⟨[c], ⟨c, hc, rfl⟩, rest, ih.2 ⟨Nat.succ.inj hlength, hrest⟩, rfl⟩

theorem mem_repeated_noneOf {excluded cs : List Char} {least most : Nat} :
    cs ∈ repeated least most (noneOf excluded) ↔
      least ≤ cs.length ∧ cs.length ≤ most ∧ ∀ c ∈ cs, c ∉ excluded := by
  constructor
  · rintro ⟨n, hleast, hmost, hn⟩
    obtain ⟨rfl, hall⟩ := mem_noneOf_pow.1 hn
    exact ⟨hleast, hmost, hall⟩
  · rintro ⟨hleast, hmost, hall⟩
    exact ⟨cs.length, hleast, hmost, mem_noneOf_pow.2 ⟨rfl, hall⟩⟩

theorem isAllowed_iff {wildcards : Bool} {c : Char} :
    isAllowed wildcards c = true ↔ c ∉ excluded wildcards := by
  cases wildcards with
  | false =>
    have hperm : (excluded false).Perm (reserved ++ ['?', '*']) := by decide
    simp [isAllowed, hperm.mem_iff]
  | true =>
    have heq : excluded true = reserved := by decide
    simp [isAllowed, heq]

theorem namePattern_eq (wildcards : Bool) :
    namePattern wildcards =
      pattern (excluded wildcards) (maxBase wildcards) (maxExtension wildcards) := by
  cases wildcards <;> rfl

theorem mem_base_iff {wildcards : Bool} {base : List Char} :
    base ∈ repeated 1 (maxBase wildcards) (noneOf (excluded wildcards)) ↔ IsBase wildcards base := by
  simp only [mem_repeated_noneOf, ← isAllowed_iff]
  exact ⟨fun h => ⟨h.1, h.2.1, h.2.2⟩, fun h => ⟨h.one_le, h.length_le, h.isAllowed⟩⟩

theorem mem_tail_iff {wildcards : Bool} {tail : List Char} :
    tail ∈ 1 + {['.']} * repeated 0 (maxExtension wildcards) (noneOf (excluded wildcards)) ↔
      isLegalTail wildcards tail = true := by
  rw [isLegalTail_iff, Language.mem_add, Language.mem_one, Language.mem_mul]
  refine or_congr_right ?_
  simp only [mem_repeated_noneOf, ← isAllowed_iff]
  constructor
  · rintro ⟨_, rfl, extension, ⟨-, hlength, hall⟩, rfl⟩
    exact ⟨extension, rfl, hlength, hall⟩
  · rintro ⟨extension, rfl, hlength, hall⟩
    exact ⟨_, rfl, extension, ⟨Nat.zero_le _, hlength, hall⟩, rfl⟩

theorem isLegalChars_iff_mem {wildcards : Bool} {cs : List Char} :
    isLegalChars wildcards cs = true ↔ cs ∈ namePattern wildcards := by
  simp only [isLegalChars_iff, namePattern_eq, pattern, Language.mem_mul, mem_base_iff, mem_tail_iff]
  constructor
  · rintro ⟨base, tail, rfl, hbase, htail⟩
    exact ⟨base, hbase, tail, htail, rfl⟩
  · rintro ⟨base, hbase, tail, htail, rfl⟩
    exact ⟨base, tail, rfl, hbase, htail⟩

/-! What a legal name holds -/

theorem isAllowed_with_wildcards {c : Char} (h : isAllowed false c = true) : isAllowed true c = true := by
  rw [isAllowed, Bool.and_eq_true] at h ⊢
  exact ⟨h.1, rfl⟩

theorem isLegalChars_with_wildcards {cs : List Char} (h : isLegalChars false cs = true) :
    isLegalChars true cs = true := by
  obtain ⟨base, tail, rfl, hbase, htail⟩ := isLegalChars_iff.1 h
  refine isLegalChars_iff.2 ⟨base, tail, rfl, ⟨hbase.one_le, ?_, ?_⟩, isLegalTail_iff.2 ?_⟩
  · exact hbase.length_le.trans (by decide)
  · exact fun c hc => isAllowed_with_wildcards (hbase.isAllowed c hc)
  · obtain rfl | ⟨extension, rfl, hlength, hall⟩ := isLegalTail_iff.1 htail
    · exact .inl rfl
    · exact .inr ⟨extension, rfl, hlength.trans (by decide),
        fun c hc => isAllowed_with_wildcards (hall c hc)⟩

theorem count_dot_le_one {wildcards : Bool} {cs : List Char} (h : isLegalChars wildcards cs = true) :
    cs.count '.' ≤ 1 := by
  obtain ⟨base, tail, rfl, hbase, htail⟩ := isLegalChars_iff.1 h
  rw [List.count_append, List.count_eq_zero.2 (dot_notMem hbase.isAllowed), Nat.zero_add]
  obtain rfl | ⟨extension, rfl, -, hall⟩ := isLegalTail_iff.1 htail
  · exact Nat.zero_le 1
  · rw [List.count_cons_self, List.count_eq_zero.2 (dot_notMem hall)]

/-- Of a character only its class counts: whether it is the dot, and whether it is allowed. -/
theorem isLegalChars_map {wildcards : Bool} {f : Char → Char} (cs : List Char)
    (hdot : ∀ c, (f c == '.') = (c == '.'))
    (hallowed : ∀ c, isAllowed wildcards (f c) = isAllowed wildcards c) :
    isLegalChars wildcards (cs.map f) = isLegalChars wildcards cs := by
  have hstop : (· != '.') ∘ f = (· != '.') := funext fun c => congrArg not (hdot c)
  have hall : isAllowed wildcards ∘ f = isAllowed wildcards := funext hallowed
  rw [isLegalChars, isLegalChars, List.takeWhile_map, List.dropWhile_map, hstop, List.length_map,
    List.all_map, hall, isLegalTail_map fun c _ => ⟨hdot c, hallowed c⟩]

def unbroken (c : Char) : Char := if c = '\n' then 'n' else c

theorem class_unbroken (wildcards : Bool) (c : Char) :
    (unbroken c == '.') = (c == '.') ∧ isAllowed wildcards (unbroken c) = isAllowed wildcards c := by
  unfold unbroken
  split
  next hbreak =>
    rw [hbreak]
    cases wildcards <;> decide
  next => exact ⟨rfl, rfl⟩

theorem isLegalChars_append_lineBreak (wildcards : Bool) (cs : List Char) :
    isLegalChars wildcards (cs ++ ['\n']) = isLegalChars wildcards (cs ++ ['n']) := by
  have hlegal (cs : List Char) :
      isLegalChars wildcards (cs.map unbroken) = isLegalChars wildcards cs :=
    isLegalChars_map cs (fun c => (class_unbroken wildcards c).1)
      fun c => (class_unbroken wildcards c).2
  have hmap : (cs ++ ['\n']).map unbroken = (cs ++ ['n']).map unbroken := by
    rw [List.map_append, List.map_append]
    rfl
  rw [← hlegal, hmap, hlegal]

/-- A name is legal exactly if the whole of it is a word of the pattern. Wildcards only add to the legal
names. A legal name has at most one dot, and holds neither the separator of two names nor those of
directories. A line break at the end takes the room of a letter. -/
theorem isLegal_iff_mem_namePattern (name : String) :
    (∀ wildcards, isLegal name wildcards = true ↔ name.toList ∈ namePattern wildcards) ∧
    (isLegal name false = true → isLegal name true = true) ∧
    (∀ wildcards, isLegal name wildcards = true →
      name.toList.count '.' ≤ 1 ∧ '|' ∉ name.toList ∧ '/' ∉ name.toList ∧ '\\' ∉ name.toList) ∧
    ∀ wildcards, isLegal (name ++ "\n") wildcards = isLegal (name ++ "n") wildcards := by
  refine ⟨fun wildcards => isLegalChars_iff_mem, isLegalChars_with_wildcards, fun wildcards h => ?_,
    fun wildcards => ?_⟩
  · exact ⟨count_dot_le_one h, notMem_of_isLegal h rfl, notMem_of_isLegal h rfl, notMem_of_isLegal h rfl⟩
  · rw [isLegal, isLegal, String.toList_append, String.toList_append]
    exact isLegalChars_append_lineBreak wildcards name.toList

theorem isLegal_of_broken_name :
    isLegal "a\n?.exe" true = true ∧ "a\n?.exe".toList ∈ namePattern true ∧
      "a\n?.exe".toList.count '.' ≤ 1 ∧ isLegal "a\n.exe" false = true ∧ isLegal "a\n.exe" true = true := by
  have hplain : isLegal "a\n.exe" false = true := by decide
  have hwild : isLegal "a\n?.exe" true = true := by decide
  obtain ⟨hmem, -, hholds, -⟩ := isLegal_iff_mem_namePattern "a\n?.exe"
  exact ⟨hwild, (hmem true).1 hwild, (hholds true hwild).1, hplain,
    (isLegal_iff_mem_namePattern "a\n.exe").2.1 hplain⟩

/-- Where there is no room for a letter, there is none for a line break. -/
example : isLegal "game.exe" false = true ∧ isLegal "game.exe\n" false = false := by decide

end GameRegistration.ShortName
