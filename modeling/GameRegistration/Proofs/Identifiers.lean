import GameRegistration.Identifier

/-! Identifiers of several parts. A digest never spoils one, for every symbol stands for a character
that identifiers may hold, and its bytes can be read off again. -/
namespace GameRegistration

namespace Text

/-! Texts with a separator -/

theorem ne_of_notMem {separator : Char} {cs : List Char} (h : separator ∉ cs) :
    ∀ c ∈ cs, (c != separator) = true := by
  intro c hc
  rw [bne_iff_ne]
  rintro rfl
  exact h hc

theorem takeWhile_separator {separator : Char} {front : List Char} (back : List Char)
    (h : separator ∉ front) : (front ++ separator :: back).takeWhile (· != separator) = front := by
  rw [List.takeWhile_append_of_pos (ne_of_notMem h), List.takeWhile_cons_of_neg (by simp),
    List.append_nil]

theorem dropWhile_separator {separator : Char} {front : List Char} (back : List Char)
    (h : separator ∉ front) :
    (front ++ separator :: back).dropWhile (· != separator) = separator :: back := by
  rw [List.dropWhile_append_of_pos (ne_of_notMem h), List.dropWhile_cons_of_neg (by simp)]

theorem append_separator_inj {separator : Char} {front front' back back' : List Char}
    (h : separator ∉ front) (h' : separator ∉ front') :
    front ++ separator :: back = front' ++ separator :: back' ↔ front = front' ∧ back = back' := by
  constructor
  · intro heq
    have hfront : front = front' := by
      rw [← takeWhile_separator back h, heq, takeWhile_separator back' h']
    have hback : separator :: back = separator :: back' := by
      rw [← dropWhile_separator back h, heq, dropWhile_separator back' h']
    exact ⟨hfront, List.tail_eq_of_cons_eq hback⟩
  · rintro ⟨rfl, rfl⟩
    rfl

end Text

namespace Digest

def IsSymbol (c : Char) : Prop := ∃ n : Fin 64, base64Symbol n = c

theorem isSymbol_base64Symbol {n : Nat} (h : n < 64) : IsSymbol (base64Symbol n) := ⟨⟨n, h⟩, rfl⟩

theorem ne_filling_of_isSymbol {c : Char} (h : IsSymbol c) : (c != '=') = true := by
  have halphabet : ∀ n : Fin 64, (base64Symbol n != '=') = true := by decide
  obtain ⟨n, rfl⟩ := h
  exact halphabet n

theorem exists_base64_eq (bytes : List UInt8) :
    ∃ symbols fill, base64 bytes = symbols ++ fill ∧ (∀ c ∈ symbols, IsSymbol c) ∧
      (∀ c ∈ fill, c = '=') ∧ symbols.length = (bytes.length * 4 + 2) / 3 := by
  fun_induction base64 bytes with
  | case1 => exact ⟨[], [], rfl, by simp, by simp, rfl⟩
  | case2 a n =>
    have ha := a.toNat_lt
    refine ⟨[_, _], ['=', '='], rfl, ?_, by simp, by simp⟩
    rw [List.forall_mem_cons, List.forall_mem_singleton]
    exact ⟨isSymbol_base64Symbol (by omega), isSymbol_base64Symbol (by omega)⟩
  | case3 a b n =>
    have ha := a.toNat_lt
    have hb := b.toNat_lt
    refine ⟨[_, _, _], ['='], rfl, ?_, by simp, by simp⟩
    rw [List.forall_mem_cons, List.forall_mem_cons, List.forall_mem_singleton]
    exact ⟨isSymbol_base64Symbol (by omega), isSymbol_base64Symbol (by omega),
      isSymbol_base64Symbol (by omega)⟩
  | case4 a b c rest n ih =>
    have ha := a.toNat_lt
    have hb := b.toNat_lt
    have hc := c.toNat_lt
    obtain ⟨symbols, fill, heq, hsymbols, hfill, hlength⟩ := ih
    refine ⟨_ :: _ :: _ :: _ :: symbols, fill, by rw [heq]; rfl, ?_, hfill, ?_⟩
    · rw [List.forall_mem_cons, List.forall_mem_cons, List.forall_mem_cons, List.forall_mem_cons]
      exact ⟨isSymbol_base64Symbol (by omega), isSymbol_base64Symbol (by omega),
        isSymbol_base64Symbol (by omega), isSymbol_base64Symbol (by omega), hsymbols⟩
    · simp only [List.length_cons, hlength]
      omega

theorem takeWhile_base64_spec (bytes : List UInt8) :
    (∀ c ∈ (base64 bytes).takeWhile (· != '='), IsSymbol c) ∧
      ((base64 bytes).takeWhile (· != '=')).length = (bytes.length * 4 + 2) / 3 := by
  obtain ⟨symbols, fill, heq, hsymbols, hfill, hlength⟩ := exists_base64_eq bytes
  have hstop : fill.takeWhile (· != '=') = [] := by
    cases fill with
    | nil => rfl
    | cons c rest => rw [hfill c List.mem_cons_self]; rfl
  rw [heq, List.takeWhile_append_of_pos fun c hc => ne_filling_of_isSymbol (hsymbols c hc), hstop,
    List.append_nil]
  exact ⟨hsymbols, hlength⟩

end Digest

namespace Identifier

theorem isLegalChars_append {front : List Char} (back : List Char) (h : front ≠ []) :
    isLegalChars (front ++ back) = (isLegalChars front && back.all isPart) := by
  cases front with
  | nil => exact absurd rfl h
  | cons c rest => simp [isLegalChars, Bool.and_assoc]

theorem isPart_of_isLegalChars {cs : List Char} (h : isLegalChars cs = true) :
    ∀ c ∈ cs, isPart c = true := by
  cases cs with
  | nil => cases h
  | cons c rest =>
    rw [isLegalChars, Bool.and_eq_true, List.all_eq_true] at h
    refine List.forall_mem_cons.2 ⟨?_, h.2⟩
    have hstart := h.1
    rw [isStart, Bool.or_eq_true] at hstart
    simp only [isPart, Char.isAlphanum, Bool.or_eq_true]
    exact hstart.elim (fun h => .inl (.inl (.inl h))) fun h => .inl (.inr h)

theorem ascii_of_isPart {c : Char} (h : isPart c = true) : c.toNat < 0x80 := by
  have hle {last : Char} (hlast : last.toNat < 0x80) (hc : c.val ≤ last.val) : c.toNat < 0x80 :=
    Nat.lt_of_le_of_lt (UInt32.le_iff_toNat_le.1 hc) hlast
  simp only [isPart, Bool.or_eq_true, beq_iff_eq] at h
  obtain (halphanum | rfl) | rfl := h
  · have hclass : (c.isUpper || c.isLower || c.isDigit) = true := halphanum
    rw [Bool.or_eq_true, Bool.or_eq_true] at hclass
    obtain (hupper | hlower) | hdigit := hclass
    · exact hle (by decide) (of_decide_eq_true hupper).2
    · exact hle (by decide) (of_decide_eq_true (Bool.and_eq_true_iff.1 hlower).2)
    · exact hle (by decide) (of_decide_eq_true (Bool.and_eq_true_iff.1 hdigit).2)
  · decide
  · decide

theorem toList_ne_nil_of_isLegal {stem : String} (h : isLegal stem = true) : stem.toList ≠ [] := by
  intro hnil
  rw [isLegal, hnil] at h
  cases h

/-- Of a composed identifier with a legal stem, the owner alone decides. -/
theorem isLegal_compose {stem : String} (owner : String) (h : isLegal stem = true) :
    isLegal (compose stem owner) = owner.toList.all isPart := by
  have hne := toList_ne_nil_of_isLegal h
  have hstem : isLegalChars stem.toList = true := h
  have hjoin : isPart '_' = true := by decide
  simp [isLegal, compose, isLegalChars_append, hne, hstem, hjoin]

theorem length_compose (stem owner : String) :
    (compose stem owner).length = stem.length + 1 + owner.length := by
  rw [compose, String.length_append, String.length_append]
  rfl

theorem violation?_compose_eq_none_iff {stem owner : String} (h : isLegal stem = true) :
    violation? (compose stem owner) = none ↔
      stem.length + 1 + owner.length ≤ maxLength ∧ owner.toList.all isPart = true := by
  rw [violation?_eq_none_iff, length_compose, isLegal_compose owner h]

def letter (n : Nat) : Char := safeSymbol (Digest.base64Symbol n)

def alphabet : List Char := "ABCDEFGHIJKLMNOPQRSTUVWXYZabcdefghijklmnopqrstuvwxyz0123456789._".toList

theorem alphabet_eq : alphabet = (List.range 64).map letter := by decide +kernel

theorem mem_alphabet_iff {c : Char} : c ∈ alphabet ↔ ∃ n : Fin 64, letter n = c := by
  rw [alphabet_eq, List.mem_map]
  constructor
  · rintro ⟨n, hn, rfl⟩
    exact ⟨⟨n, List.mem_range.1 hn⟩, rfl⟩
  · rintro ⟨n, rfl⟩
    exact ⟨n, List.mem_range.2 n.isLt, rfl⟩

theorem isPart_of_mem_alphabet {c : Char} (h : c ∈ alphabet) : isPart c = true := by
  have hall : ∀ n : Fin 64, isPart (letter n) = true := by decide
  obtain ⟨n, rfl⟩ := mem_alphabet_iff.1 h
  exact hall n

theorem digestChars_spec (digest : List UInt8) :
    digestChars digest ⊆ alphabet ∧ (digestChars digest).length = (digest.length * 4 + 2) / 3 := by
  obtain ⟨hsymbols, hlength⟩ := Digest.takeWhile_base64_spec digest
  refine ⟨fun c hc => ?_, by rw [digestChars, List.length_map, hlength]⟩
  obtain ⟨symbol, hsymbol, rfl⟩ := List.mem_map.1 hc
  obtain ⟨n, rfl⟩ := hsymbols symbol hsymbol
  exact mem_alphabet_iff.2 ⟨n, rfl⟩

/-- The value that a letter stands for. -/
def letterValue (c : Char) : Nat :=
  if c = '.' then 62
  else if c = '_' then 63
  else if c.toNat < 65 then c.toNat + 4
  else if c.toNat < 97 then c.toNat - 65
  else c.toNat - 71

theorem letterValue_letter {n : Nat} (h : n < 64) : letterValue (letter n) = n := by
  have hall : ∀ n : Fin 64, letterValue (letter n) = n := by decide
  exact hall ⟨n, h⟩

theorem takeWhile_symbol {n : Nat} (h : n < 64) (rest : List Char) :
    (Digest.base64Symbol n :: rest).takeWhile (· != '=') =
      Digest.base64Symbol n :: rest.takeWhile (· != '=') :=
  List.takeWhile_cons_of_pos (Digest.ne_filling_of_isSymbol (Digest.isSymbol_base64Symbol h))

theorem digestChars_one (a : UInt8) :
    digestChars [a] = [letter (a.toNat * 16 / 64), letter (a.toNat * 16 % 64)] := by
  have ha := a.toNat_lt
  rw [digestChars, Digest.base64, takeWhile_symbol (by omega), takeWhile_symbol (by omega)]
  rfl

theorem digestChars_two (a b : UInt8) :
    let n := (a.toNat * 256 + b.toNat) * 4
    digestChars [a, b] = [letter (n / 4096), letter (n / 64 % 64), letter (n % 64)] := by
  have ha := a.toNat_lt
  have hb := b.toNat_lt
  dsimp only
  rw [digestChars, Digest.base64, takeWhile_symbol (by omega), takeWhile_symbol (by omega),
    takeWhile_symbol (by omega)]
  rfl

theorem digestChars_group (a b c : UInt8) (rest : List UInt8) :
    let n := (a.toNat * 256 + b.toNat) * 256 + c.toNat
    digestChars (a :: b :: c :: rest) =
      letter (n / 262144) :: letter (n / 4096 % 64) :: letter (n / 64 % 64) :: letter (n % 64) ::
        digestChars rest := by
  have ha := a.toNat_lt
  have hb := b.toNat_lt
  have hc := c.toNat_lt
  dsimp only
  rw [digestChars, Digest.base64, takeWhile_symbol (by omega), takeWhile_symbol (by omega),
    takeWhile_symbol (by omega), takeWhile_symbol (by omega)]
  rfl

/-- The bytes that letters stand for: four letters for three bytes, and two or three for what is left. -/
def bytesOfLetters : List Char → List UInt8
  | a :: b :: c :: d :: rest =>
    let n := ((letterValue a * 64 + letterValue b) * 64 + letterValue c) * 64 + letterValue d
    .ofNat (n / 65536) :: .ofNat (n / 256) :: .ofNat n :: bytesOfLetters rest
  | [a, b, c] =>
    let n := (letterValue a * 64 + letterValue b) * 64 + letterValue c
    [.ofNat (n / 1024), .ofNat (n / 4)]
  | [a, b] => [.ofNat ((letterValue a * 64 + letterValue b) / 16)]
  | _ => []

theorem ofNat_eq_of_mod {n : Nat} {a : UInt8} (h : n % 256 = a.toNat) : UInt8.ofNat n = a :=
  UInt8.toNat_inj.1 (UInt8.toNat_ofNat'.trans h)

/-- Nothing is lost: each group of letters tells its bytes, and so does a last one that is not full. -/
theorem bytesOfLetters_digestChars : Function.LeftInverse bytesOfLetters digestChars := by
  intro bytes
  -- the letters of a group are the digits of one number to the base 64, its bytes those to the base 256
  induction bytes using Digest.base64.induct with
  | case1 => rfl
  | case2 a =>
    have ha := a.toNat_lt
    rw [digestChars_one, bytesOfLetters, letterValue_letter (by omega), letterValue_letter (by omega),
      ofNat_eq_of_mod (a := a) (by omega)]
  | case3 a b =>
    have ha := a.toNat_lt
    have hb := b.toNat_lt
    rw [digestChars_two, bytesOfLetters, letterValue_letter (by omega), letterValue_letter (by omega),
      letterValue_letter (by omega), ofNat_eq_of_mod (a := a) (by omega),
      ofNat_eq_of_mod (a := b) (by omega)]
  | case4 a b c rest ih =>
    have ha := a.toNat_lt
    have hb := b.toNat_lt
    have hc := c.toNat_lt
    rw [digestChars_group, bytesOfLetters, letterValue_letter (by omega), letterValue_letter (by omega),
      letterValue_letter (by omega), letterValue_letter (by omega), ofNat_eq_of_mod (a := a) (by omega),
      ofNat_eq_of_mod (a := b) (by omega), ofNat_eq_of_mod (a := c) (by omega), ih]

theorem digestChars_injective : Function.Injective digestChars := bytesOfLetters_digestChars.injective

theorem letters_of_twenty_bytes {digest : List UInt8} (h : digest.length = 20) :
    (digestChars digest).length = 27 ∧ digestChars digest ⊆ alphabet ∧
      bytesOfLetters (digestChars digest) = digest := by
  obtain ⟨hmem, hlength⟩ := digestChars_spec digest
  rw [h] at hlength
  exact ⟨hlength, hmem, bytesOfLetters_digestChars digest⟩

theorem hashed_eq_hashed_iff (stem : String) (parts parts' : List String) :
    hashed stem parts = hashed stem parts' ↔
      Digest.sha1 (joined parts).toUTF8.toList = Digest.sha1 (joined parts').toUTF8.toList := by
  rw [hashed, hashed, ← String.toList_inj, String.toList_append, String.toList_append,
    List.append_cancel_left_eq, String.toList_ofList, String.toList_ofList,
    digestChars_injective.eq_iff]

theorem length_hashed (stem : String) (parts : List String) :
    (hashed stem parts).length = stem.length + 27 := by
  rw [hashed, String.length_append, String.length_ofList, (digestChars_spec _).2, Digest.length_sha1]

theorem isLegal_hashed {stem : String} (parts : List String) (h : isLegal stem = true) :
    isLegal (hashed stem parts) = true := by
  rw [isLegal, hashed, String.toList_append, String.toList_ofList,
    isLegalChars_append _ (toList_ne_nil_of_isLegal h), Bool.and_eq_true, List.all_eq_true]
  exact ⟨h, fun c hc => isPart_of_mem_alphabet ((digestChars_spec _).1 hc)⟩

theorem drop_hashed (stem : String) (parts : List String) :
    (hashed stem parts).toList.drop stem.length =
      digestChars (Digest.sha1 (joined parts).toUTF8.toList) := by
  rw [hashed, String.toList_append, String.toList_ofList, ← String.length_toList, List.drop_left]

/-- Behind its stem a hashed identifier has 27 characters of the alphabet, whatever is hashed, so that it is
legal where the stem is. The 27 characters of a digest are read back as its twenty bytes. -/
theorem hashed_stem_and_letters :
    (∀ (stem : String) (parts : List String),
      let letters := (hashed stem parts).toList.drop stem.length
      (hashed stem parts).toList = stem.toList ++ letters ∧
        letters.length = 27 ∧ letters ⊆ alphabet ∧
        bytesOfLetters letters = Digest.sha1 (joined parts).toUTF8.toList ∧
        (isLegal stem = true → isLegal (hashed stem parts) = true)) ∧
    ∀ digest : List UInt8, digest.length = 20 →
      (digestChars digest).length = 27 ∧ digestChars digest ⊆ alphabet ∧
        bytesOfLetters (digestChars digest) = digest := by
  refine ⟨fun stem parts => ?_, fun digest => letters_of_twenty_bytes⟩
  have hstem : (hashed stem parts).toList =
      stem.toList ++ (hashed stem parts).toList.drop stem.length := by
    rw [drop_hashed, hashed, String.toList_append, String.toList_ofList]
  obtain ⟨hlength, hmem, hread⟩ :=
    letters_of_twenty_bytes (Digest.length_sha1 (joined parts).toUTF8.toList)
  dsimp only
  refine ⟨hstem, ?_⟩
  rw [drop_hashed]
  exact ⟨hlength, hmem, hread, isLegal_hashed parts⟩

/-- Neither a separator nor a line break in the parts matters, and a digest may be all ones. -/
theorem hashed_of_odd_parts :
    (isLegal "reg" = true ∧ isLegal (hashed "reg" ["Game|Comp", "", "Grüße\n"]) = true) ∧
      (List.replicate 20 (255 : UInt8)).length = 20 ∧
        bytesOfLetters (digestChars (List.replicate 20 255)) = List.replicate 20 255 := by
  have hlegal : isLegal "reg" = true := by decide
  have hlength : (List.replicate 20 (255 : UInt8)).length = 20 := List.length_replicate
  obtain ⟨-, -, -, -, hreg⟩ := hashed_stem_and_letters.1 "reg" ["Game|Comp", "", "Grüße\n"]
  obtain ⟨-, -, hread⟩ := hashed_stem_and_letters.2 _ hlength
  exact ⟨⟨hlegal, hreg hlegal⟩, hlength, hread⟩

end Identifier

end GameRegistration
