import GameRegistration.Json.Reading
import GameRegistration.Json.Value

/-! Reading what was written. Both written forms of a value read back as that value, whatever
follows them. -/
namespace GameRegistration.Json

/-! Quoted texts -/

theorem hexUnit?_control {n : Nat} (h : n < 0x20) :
    hexUnit? '0' '0' (Text.hexLower (Text.lastHexDigit (n / 16)))
      (Text.hexLower (Text.lastHexDigit n)) = some n := by
  have hzero : Text.hexDigit? '0' = some 0 := by decide
  simp only [hexUnit?, hzero, Text.hexDigit?_hexLower, Option.bind_eq_bind, Option.bind_some,
    Text.lastHexDigit, Fin.val_ofNat, Option.pure_def, Option.some.injEq, Fin.val_zero]
  omega

theorem readUnits_simple {c d : Char} (hne : c ≠ 'u') (h : simpleEscape? c = some d)
    (rest : List Char) :
    readUnits ('\\' :: c :: rest) =
      (readUnits rest).map fun (units, rest) => (d.toNat :: units, rest) := by
  have hread : readUnits ('\\' :: c :: rest) = (do
      let c ← simpleEscape? c
      let (units, rest) ← readUnits rest
      return (c.toNat :: units, rest)) := by
    rw [readUnits]
    intro _ _ _ _ _ heq
    exact absurd heq hne
  rw [hread, h]
  cases readUnits rest <;> rfl

theorem readUnits_plain {c : Char} (hquote : c ≠ '"') (hbackslash : c ≠ '\\') (h : ¬ c.toNat < 0x20)
    (rest : List Char) :
    readUnits (c :: rest) = (readUnits rest).map fun (units, rest) => (c.toNat :: units, rest) := by
  have hread : readUnits (c :: rest) = (do
      let (units, rest) ← readUnits rest
      return (c.toNat :: units, rest)) := by
    rw [readUnits, if_neg h]
    · exact hquote
    · intro _ _ _ _ _ heq
      exact absurd heq hbackslash
    · intro _ _ heq
      exact absurd heq hbackslash
  rw [hread]
  cases readUnits rest <;> rfl

theorem readUnits_escape (c : Char) (rest : List Char) :
    readUnits (escape c ++ rest) =
      (readUnits rest).map fun (units, rest) => (c.toNat :: units, rest) := by
  unfold escape
  split
  next h => rw [h]; exact readUnits_simple (by decide) rfl rest
  next hquote =>
  split
  next h => rw [h]; exact readUnits_simple (by decide) rfl rest
  next hbackslash =>
  split
  next h => rw [h]; exact readUnits_simple (by decide) rfl rest
  split
  next h => rw [h]; exact readUnits_simple (by decide) rfl rest
  split
  next h => rw [h]; exact readUnits_simple (by decide) rfl rest
  split
  next h => rw [h]; exact readUnits_simple (by decide) rfl rest
  split
  next h => rw [h]; exact readUnits_simple (by decide) rfl rest
  split
  next hcontrol =>
    rw [escapeControl]
    simp only [List.cons_append, List.nil_append]
    rw [readUnits, hexUnit?_control hcontrol]
    cases readUnits rest <;> rfl
  next hcontrol => exact readUnits_plain hquote hbackslash hcontrol rest

theorem readUnits_flatMap_escape (cs rest : List Char) :
    readUnits (cs.flatMap escape ++ '"' :: rest) = some (cs.map Char.toNat, rest) := by
  induction cs with
  | nil => rw [List.flatMap_nil, List.nil_append, readUnits, List.map_nil]
  | cons c cs ih =>
    rw [List.flatMap_cons, List.append_assoc, readUnits_escape, ih]
    rfl

theorem not_half (c : Char) : (isHighHalf c.toNat || isLowHalf c.toNat) = false := by
  have hvalid := c.valid
  simp only [UInt32.isValidChar, Nat.isValidChar] at hvalid
  change c.toNat < 0xD800 ∨ 0xDFFF < c.toNat ∧ c.toNat < 0x110000 at hvalid
  simp only [isHighHalf, isLowHalf, Bool.or_eq_false_iff, Bool.and_eq_false_iff, decide_eq_false_iff_not]
  omega

theorem joinUnits_map_toNat (cs : List Char) : joinUnits (cs.map Char.toNat) = some cs := by
  induction cs with
  | nil => rfl
  | cons c cs ih =>
    obtain ⟨hhigh, hlow⟩ := Bool.or_eq_false_iff.1 (not_half c)
    cases cs with
    | nil => simp [joinUnits, hhigh, hlow]
    | cons d cs =>
      rw [List.map_cons, List.map_cons, joinUnits, hhigh, hlow]
      rw [List.map_cons] at ih
      simp [ih]

theorem unquote_flatMap_escape (s : String) (rest : List Char) :
    unquote (s.toList.flatMap escape ++ '"' :: rest) = some (some s, rest) := by
  rw [unquote, readUnits_flatMap_escape]
  simp [joinUnits_map_toNat]

/-! Numbers -/

/-- What a whole number is read as: itself, as long as 64 bits hold it. -/
def Number.ofNat (n : Nat) : Number :=
  NumberLiteral.number
    { isNegative := false, whole := Nat.toDigits 10 n, fraction := [], exponent := none }

theorem value_toDigits (n : Nat) : value (Nat.toDigits 10 n) = n := Nat.ofDigitChars_ten_toDigits

theorem Number.ofNat_of_lt {n : Nat} (h : n < Nat.pow 2 64) : Number.ofNat n = .natural n := by
  simp [Number.ofNat, NumberLiteral.number, value_toDigits, h]

theorem isDigit_of_mem_toDigits {n : Nat} : ∀ c ∈ Nat.toDigits 10 n, isDigit c = true := by
  intro c hc
  have hdigit := Nat.isDigit_of_mem_toDigits (by decide) (by decide) hc
  simpa [isDigit, Char.isDigit, Char.le_def] using hdigit

theorem head?_toDigits_ne {n : Nat} (h : 0 < n) : (Nat.toDigits 10 n).head? ≠ some '0' := by
  induction n using Nat.strongRecOn with
  | ind n ih =>
    by_cases hlt : n < 10
    · rw [Nat.toDigits_of_lt_base hlt]
      simp
      omega
    · have hfront := ih (n / 10) (by omega) (by omega)
      rw [Nat.toDigits_of_base_le (by decide) (Nat.not_lt.1 hlt)]
      cases hdigits : Nat.toDigits 10 (n / 10) with
      | nil => exact absurd hdigits Nat.toDigits_ne_nil
      | cons c rest =>
        rw [hdigits] at hfront
        exact hfront

/-- What may follow a number without being taken for more of it. -/
def EndsNumber (rest : List Char) : Prop :=
  ∀ c ∈ rest.head?, isDigit c = false ∧ c ≠ '.' ∧ c ≠ 'e' ∧ c ≠ 'E'

section Number
variable {rest : List Char} (h : EndsNumber rest)
include h

theorem readWhole_toDigits (n : Nat) :
    readWhole (Nat.toDigits 10 n ++ rest) = some (Nat.toDigits 10 n, rest) := by
  have hstop : rest.takeWhile isDigit = [] ∧ rest.dropWhile isDigit = rest := by
    cases rest with
    | nil => exact ⟨rfl, rfl⟩
    | cons c rest => simp [(h c rfl).1]
  have htake : (Nat.toDigits 10 n ++ rest).takeWhile isDigit = Nat.toDigits 10 n := by
    rw [List.takeWhile_append_of_pos isDigit_of_mem_toDigits, hstop.1, List.append_nil]
  have hdrop : (Nat.toDigits 10 n ++ rest).dropWhile isDigit = rest := by
    rw [List.dropWhile_append_of_pos isDigit_of_mem_toDigits, hstop.2]
  rw [readWhole, htake, hdrop]
  split
  next hnil => exact absurd hnil Nat.toDigits_ne_nil
  next hzeros =>
    -- a zero in front of other digits is that of no number
    have hpos : 0 < n := by
      rw [Nat.pos_iff_ne_zero]
      rintro rfl
      cases hzeros
    exact absurd (congrArg List.head? hzeros) (head?_toDigits_ne hpos)
  next => rfl

theorem readFraction_of_endsNumber : readFraction rest = some ([], rest) := by
  cases rest with
  | nil => rfl
  | cons c rest =>
    rw [readFraction]
    intro _ heq
    cases heq
    exact (h '.' rfl).2.1 rfl

theorem readExponent_of_endsNumber : readExponent rest = some (none, rest) := by
  cases rest with
  | nil => rfl
  | cons c rest =>
    obtain ⟨-, -, hlower, hupper⟩ := h c rfl
    exact if_neg (not_or.2 ⟨hlower, hupper⟩)

theorem readNumber_toDigits (n : Nat) :
    readNumber (Nat.toDigits 10 n ++ rest) = some (.ofNat n, rest) := by
  have hsign : readSign (Nat.toDigits 10 n ++ rest) = (false, Nat.toDigits 10 n ++ rest) := by
    cases hdigits : Nat.toDigits 10 n with
    | nil => exact absurd hdigits Nat.toDigits_ne_nil
    | cons c digits =>
      have hdigit := isDigit_of_mem_toDigits c (by rw [hdigits]; exact List.mem_cons_self)
      rw [List.cons_append, readSign]
      intro _ heq
      cases heq
      cases hdigit
  rw [readNumber, hsign]
  simp only [readWhole_toDigits h, readFraction_of_endsNumber h, readExponent_of_endsNumber h,
    Option.bind_eq_bind, Option.bind_some]
  rfl

end Number

/-! Gaps -/

theorem skipGaps_append {gaps : List Char} (h : ∀ c ∈ gaps, isGap c = true) (cs : List Char) :
    skipGaps (gaps ++ cs) = skipGaps cs :=
  List.dropWhile_append_of_pos h

theorem isGap_gap (pretty : Bool) (depth : Nat) : ∀ c ∈ gap pretty depth, isGap c = true := by
  intro c hc
  cases pretty with
  | false => cases hc
  | true =>
    obtain rfl | hc := List.mem_cons.1 hc
    · rfl
    · rw [List.eq_of_mem_replicate hc]
      rfl

theorem skipGaps_cons {c : Char} (h : isGap c = false) (cs : List Char) :
    skipGaps (c :: cs) = c :: cs :=
  List.dropWhile_cons_of_neg (by simp [h])

section Gaps
variable {gaps : List Char} (h : ∀ c ∈ gaps, isGap c = true)
include h

theorem readValue_gaps (fuel : Nat) (cs : List Char) :
    readValue fuel (gaps ++ cs) = readValue fuel cs := by
  cases fuel with
  | zero => rfl
  | succ fuel => rw [readValue, readValue, skipGaps_append h]

theorem readItems_gaps (fuel : Nat) (cs : List Char) :
    readItems fuel (gaps ++ cs) = readItems fuel cs := by
  cases fuel with
  | zero => rfl
  | succ fuel => rw [readItems, readItems, readValue_gaps h]

theorem readMembers_gaps (fuel : Nat) (cs : List Char) :
    readMembers fuel (gaps ++ cs) = readMembers fuel cs := by
  cases fuel with
  | zero => rfl
  | succ fuel => rw [readMembers, readMembers, skipGaps_append h]

end Gaps

/-! Values -/

mutual

def Reading.ofJson : Json → Reading
  | .null => .null
  | .bool b => .bool b
  | .number n => .number (.ofNat n)
  | .text s => .text (some s)
  | .array items => .array (Items.ofList items)
  | .object members => .object (Members.ofList members)

def Items.ofList : List Json → Items
  | [] => .close
  | item :: rest => .item (Reading.ofJson item) (Items.ofList rest)

def Members.ofList : List (String × Json) → Members
  | [] => .close
  | (key, value) :: rest => .member (some key) (Reading.ofJson value) (Members.ofList rest)

end

theorem exists_toDigits_eq_cons (n : Nat) :
    ∃ c cs, Nat.toDigits 10 n = c :: cs ∧ isDigit c = true ∧ isGap c = false := by
  cases hdigits : Nat.toDigits 10 n with
  | nil => exact absurd hdigits Nat.toDigits_ne_nil
  | cons c cs =>
    have hdigit := isDigit_of_mem_toDigits c (by rw [hdigits]; exact List.mem_cons_self)
    refine ⟨c, cs, rfl, hdigit, Bool.eq_false_iff.2 fun hgap => ?_⟩
    simp only [isGap, Bool.or_eq_true, beq_iff_eq] at hgap
    obtain ((rfl | rfl) | rfl) | rfl := hgap <;> cases hdigit

/-- Where the text of a value starts no gap is skipped and no array ends. -/
theorem exists_write_eq_cons (pretty : Bool) (depth : Nat) (v : Json) :
    ∃ c cs, write pretty depth v = c :: cs ∧ isGap c = false ∧ c ≠ ']' := by
  cases v with
  | null => exact ⟨_, _, by rw [write], rfl, by decide⟩
  | bool b => cases b <;> exact ⟨_, _, by rw [write], rfl, by decide⟩
  | number n =>
    obtain ⟨c, cs, heq, hdigit, hgap⟩ := exists_toDigits_eq_cons n
    refine ⟨c, cs, by rw [write, heq], hgap, ?_⟩
    rintro rfl
    cases hdigit
  | text s => exact ⟨_, _, by rw [write, quote, List.cons_append], rfl, by decide⟩
  | array items =>
    cases items with
    | nil => exact ⟨_, _, by rw [write], rfl, by decide⟩
    | cons item rest => exact ⟨_, _, by rw [write]; rfl, rfl, by decide⟩
  | object members =>
    cases members with
    | nil => exact ⟨_, _, by rw [write], rfl, by decide⟩
    | cons m rest => exact ⟨_, _, by rw [write]; rfl, rfl, by decide⟩

theorem readValue_number {rest : List Char} (h : EndsNumber rest) (fuel n : Nat) :
    readValue (fuel + 1) (Nat.toDigits 10 n ++ rest) = (.number (.ofNat n), some rest) := by
  have hread := readNumber_toDigits h n
  obtain ⟨c, cs, heq, hdigit, hgap⟩ := exists_toDigits_eq_cons n
  rw [heq, List.cons_append] at hread ⊢
  rw [readValue, skipGaps_cons hgap]
  -- a digit starts nothing but a number
  split
  next hc => obtain ⟨rfl, -⟩ := List.cons.inj hc; cases hdigit
  next hc => obtain ⟨rfl, -⟩ := List.cons.inj hc; cases hdigit
  next hc => obtain ⟨rfl, -⟩ := List.cons.inj hc; cases hdigit
  next hc => obtain ⟨rfl, -⟩ := List.cons.inj hc; cases hdigit
  next hc => obtain ⟨rfl, -⟩ := List.cons.inj hc; cases hdigit
  next hc => obtain ⟨rfl, -⟩ := List.cons.inj hc; cases hdigit
  next => rw [hread]

theorem readValue_array {fuel : Nat} {gaps : List Char} {c : Char} {cs : List Char}
    (hgaps : ∀ c ∈ gaps, isGap c = true) (hgap : isGap c = false) (hne : c ≠ ']') :
    readValue (fuel + 1) ('[' :: (gaps ++ c :: cs)) =
      (.array (readItems fuel (c :: cs)).1, (readItems fuel (c :: cs)).2) := by
  rw [readValue, skipGaps_cons rfl]
  simp only
  rw [skipGaps_append hgaps, skipGaps_cons hgap]
  split
  next heq =>
    cases heq
    exact absurd rfl hne
  next => rfl

theorem readValue_object {fuel : Nat} {gaps cs : List Char}
    (hgaps : ∀ c ∈ gaps, isGap c = true) :
    readValue (fuel + 1) ('{' :: (gaps ++ '"' :: cs)) =
      (.object (readMembers fuel ('"' :: cs)).1, (readMembers fuel ('"' :: cs)).2) := by
  rw [readValue, skipGaps_cons rfl]
  simp only
  rw [skipGaps_append hgaps, skipGaps_cons rfl]
  rfl

theorem readItems_more {fuel : Nat} {cs rest : List Char} {value : Reading}
    (h : readValue fuel cs = (value, some (',' :: rest))) :
    readItems (fuel + 1) cs =
      (.item value (readItems fuel rest).1, (readItems fuel rest).2) := by
  rw [readItems, h]
  rfl

theorem readItems_close {fuel : Nat} {cs gaps rest : List Char} {value : Reading}
    (hgaps : ∀ c ∈ gaps, isGap c = true)
    (h : readValue fuel cs = (value, some (gaps ++ ']' :: rest))) :
    readItems (fuel + 1) cs = (.item value .close, some rest) := by
  rw [readItems, h]
  simp only
  rw [skipGaps_append hgaps]
  rfl

section Members
variable {fuel : Nat} {cs rest : List Char} {value : Reading}

theorem readMembers_key (key : String) :
    readMembers (fuel + 1) (quote key ++ ':' :: cs) =
      match readValue fuel cs with
      | (value, none) => (.member (some key) value .broken, none)
      | (value, some rest) =>
        match skipGaps rest with
        | ',' :: rest =>
          (.member (some key) value (readMembers fuel rest).1, (readMembers fuel rest).2)
        | '}' :: rest => (.member (some key) value .close, some rest)
        | _ => (.member (some key) value .broken, none) := by
  have hkey : quote key ++ ':' :: cs = '"' :: (key.toList.flatMap escape ++ '"' :: ':' :: cs) := by
    simp [quote]
  rw [hkey, readMembers, skipGaps_cons rfl]
  simp only
  rw [unquote_flatMap_escape]
  simp only
  rw [skipGaps_cons rfl]
  rfl

theorem readMembers_more (key : String) (h : readValue fuel cs = (value, some (',' :: rest))) :
    readMembers (fuel + 1) (quote key ++ ':' :: cs) =
      (.member (some key) value (readMembers fuel rest).1, (readMembers fuel rest).2) := by
  rw [readMembers_key, h]
  rfl

theorem readMembers_close (key : String) {gaps : List Char} (hgaps : ∀ c ∈ gaps, isGap c = true)
    (h : readValue fuel cs = (value, some (gaps ++ '}' :: rest))) :
    readMembers (fuel + 1) (quote key ++ ':' :: cs) = (.member (some key) value .close, some rest) := by
  rw [readMembers_key, h]
  simp only
  rw [skipGaps_append hgaps]
  rfl

end Members

theorem endsNumber_cons {c : Char} (rest : List Char)
    (h : isDigit c = false ∧ c ≠ '.' ∧ c ≠ 'e' ∧ c ≠ 'E') : EndsNumber (c :: rest) := by
  rintro _ ⟨⟩
  exact h

theorem EndsNumber.gap {rest : List Char} (h : EndsNumber rest) (pretty : Bool) (depth : Nat) :
    EndsNumber (gap pretty depth ++ rest) := by
  cases pretty with
  | false => exact h
  | true => exact endsNumber_cons _ (by decide)

theorem endsNumber_writeItems (pretty : Bool) (depth : Nat) (items : List Json) (rest : List Char) :
    EndsNumber (writeItems pretty depth items ++ rest) := by
  cases items with
  | nil =>
    rw [writeItems, List.append_assoc]
    exact (endsNumber_cons rest (by decide)).gap pretty depth
  | cons item items =>
    rw [writeItems]
    exact endsNumber_cons _ (by decide)

theorem endsNumber_writeMembers (pretty : Bool) (depth : Nat) (members : List (String × Json))
    (rest : List Char) : EndsNumber (writeMembers pretty depth members ++ rest) := by
  cases members with
  | nil =>
    rw [writeMembers, List.append_assoc]
    exact (endsNumber_cons rest (by decide)).gap pretty depth
  | cons m members =>
    rw [writeMembers]
    exact endsNumber_cons _ (by decide)

def blanks (pretty : Bool) : List Char := if pretty then [' '] else []

theorem colon_eq (pretty : Bool) : colon pretty = ':' :: blanks pretty := by
  cases pretty <;> rfl

theorem isGap_blanks (pretty : Bool) : ∀ c ∈ blanks pretty, isGap c = true := by
  cases pretty <;> simp [blanks, isGap]

theorem readValue_text (fuel : Nat) (s : String) (rest : List Char) :
    readValue (fuel + 1) (quote s ++ rest) = (.text (some s), some rest) := by
  have htext : quote s ++ rest = '"' :: (s.toList.flatMap escape ++ '"' :: rest) := by
    simp [quote]
  rw [htext, readValue, skipGaps_cons rfl]
  simp only
  rw [unquote_flatMap_escape]

theorem exists_fuel {pretty : Bool} {depth : Nat} {v : Json} {fuel : Nat}
    (h : 2 * (write pretty depth v).length ≤ fuel) : ∃ fuel', fuel = fuel' + 1 := by
  obtain ⟨c, cs, heq, -⟩ := exists_write_eq_cons pretty depth v
  rw [heq, List.length_cons] at h
  exact Nat.exists_eq_add_one_of_ne_zero (by omega)

section Written
variable {pretty : Bool} {depth fuel : Nat} {rest : List Char}

theorem readValue_write_array {item : Json} {items : List Json}
    (h : readItems fuel (write pretty (depth + 1) item ++ writeItems pretty depth items ++ rest) =
      (Items.ofList (item :: items), some rest)) :
    readValue (fuel + 1) (write pretty depth (.array (item :: items)) ++ rest) =
      (Reading.ofJson (.array (item :: items)), some rest) := by
  obtain ⟨c, cs, hitem, hgap, hne⟩ := exists_write_eq_cons pretty (depth + 1) item
  have htext : write pretty depth (.array (item :: items)) ++ rest =
      '[' :: (gap pretty (depth + 1) ++ c :: (cs ++ writeItems pretty depth items ++ rest)) := by
    rw [write, hitem]
    simp
  rw [hitem, List.cons_append, List.cons_append] at h
  rw [htext, readValue_array (isGap_gap pretty (depth + 1)) hgap hne, h]
  rfl

theorem readValue_write_object {key : String} {value : Json} {members : List (String × Json)}
    (h : readMembers fuel (quote key ++ colon pretty ++ write pretty (depth + 1) value ++
      writeMembers pretty depth members ++ rest) =
        (Members.ofList ((key, value) :: members), some rest)) :
    readValue (fuel + 1) (write pretty depth (.object ((key, value) :: members)) ++ rest) =
      (Reading.ofJson (.object ((key, value) :: members)), some rest) := by
  have htext : write pretty depth (.object ((key, value) :: members)) ++ rest =
      '{' :: (gap pretty (depth + 1) ++ (quote key ++ colon pretty ++
        write pretty (depth + 1) value ++ writeMembers pretty depth members ++ rest)) := by
    rw [write]
    simp
  rw [quote] at h htext
  simp only [List.cons_append] at h htext
  rw [htext, readValue_object (isGap_gap pretty (depth + 1)), h]
  rfl

end Written

mutual

/-- A value reads back from its text, with enough fuel for that text and whatever follows it. -/
theorem readValue_write (pretty : Bool) (depth : Nat) (v : Json) (fuel : Nat) {rest : List Char}
    (hfuel : 2 * (write pretty depth v).length ≤ fuel) (hrest : EndsNumber rest) :
    readValue fuel (write pretty depth v ++ rest) = (Reading.ofJson v, some rest) := by
  obtain ⟨fuel, rfl⟩ := exists_fuel hfuel
  cases v with
  | null => rw [write]; rfl
  | bool b => cases b <;> rw [write] <;> rfl
  | number n =>
    rw [write]
    exact readValue_number hrest fuel n
  | text s =>
    rw [write]
    exact readValue_text fuel s rest
  | array items =>
    cases items with
    | nil => rw [write]; rfl
    | cons item items =>
      rw [write] at hfuel
      simp only [List.length_append, List.length_cons] at hfuel
      exact readValue_write_array (readItems_write pretty depth item items fuel rest (by
        rw [List.length_append]
        omega))
  | object members =>
    cases members with
    | nil => rw [write]; rfl
    | cons member members =>
      cases member with
      | mk key value =>
        rw [write] at hfuel
        simp only [List.length_append, List.length_cons] at hfuel
        exact readValue_write_object (readMembers_write pretty depth key value members fuel rest (by
          simp only [List.length_append]
          omega))
termination_by sizeOf v
decreasing_by
  all_goals subst_vars
  all_goals simp only [Json.array.sizeOf_spec, Json.object.sizeOf_spec, List.cons.sizeOf_spec,
    Prod.mk.sizeOf_spec]
  all_goals omega

theorem readItems_write (pretty : Bool) (depth : Nat) (item : Json) (items : List Json) (fuel : Nat)
    (rest : List Char)
    (hfuel : 2 * (write pretty (depth + 1) item ++ writeItems pretty depth items).length < fuel) :
    readItems fuel (write pretty (depth + 1) item ++ writeItems pretty depth items ++ rest) =
      (Items.ofList (item :: items), some rest) := by
  rw [List.length_append] at hfuel
  obtain ⟨fuel, rfl⟩ : ∃ fuel', fuel = fuel' + 1 := Nat.exists_eq_add_one_of_ne_zero (by omega)
  have hitem := readValue_write pretty (depth + 1) item fuel (by omega)
    (endsNumber_writeItems pretty depth items rest)
  rw [List.append_assoc]
  cases items with
  | nil =>
    rw [writeItems, List.append_assoc] at hitem ⊢
    exact readItems_close (isGap_gap pretty depth) hitem
  | cons next items =>
    rw [writeItems] at hitem hfuel ⊢
    simp only [List.cons_append, List.append_assoc, List.length_cons, List.length_append]
      at hitem hfuel ⊢
    have hlater := readItems_write pretty depth next items fuel rest (by
      rw [List.length_append]
      omega)
    rw [List.append_assoc] at hlater
    rw [readItems_more hitem, readItems_gaps (isGap_gap pretty (depth + 1)), hlater]
    rfl
termination_by sizeOf (item :: items)
decreasing_by
  all_goals subst_vars
  all_goals simp only [List.cons.sizeOf_spec]
  all_goals omega

theorem readMembers_write (pretty : Bool) (depth : Nat) (key : String) (value : Json)
    (members : List (String × Json)) (fuel : Nat) (rest : List Char)
    (hfuel : 2 * (quote key ++ colon pretty ++ write pretty (depth + 1) value ++
      writeMembers pretty depth members).length < fuel) :
    readMembers fuel (quote key ++ colon pretty ++ write pretty (depth + 1) value ++
        writeMembers pretty depth members ++ rest) =
      (Members.ofList ((key, value) :: members), some rest) := by
  simp only [List.length_append] at hfuel
  obtain ⟨fuel, rfl⟩ : ∃ fuel', fuel = fuel' + 1 := Nat.exists_eq_add_one_of_ne_zero (by omega)
  have hvalue := readValue_write pretty (depth + 1) value fuel (by omega)
    (endsNumber_writeMembers pretty depth members rest)
  rw [← readValue_gaps (isGap_blanks pretty)] at hvalue
  simp only [colon_eq, List.cons_append, List.append_assoc]
  cases members with
  | nil =>
    rw [writeMembers, List.append_assoc] at hvalue ⊢
    exact readMembers_close key (isGap_gap pretty depth) hvalue
  | cons member members =>
    cases member with
    | mk next nextValue =>
      rw [writeMembers] at hvalue hfuel ⊢
      simp only [List.cons_append, List.append_assoc, List.length_cons, List.length_append]
        at hvalue hfuel ⊢
      have hlater := readMembers_write pretty depth next nextValue members fuel rest (by
        simp only [List.length_append]
        omega)
      simp only [List.append_assoc] at hlater
      rw [readMembers_more key hvalue, readMembers_gaps (isGap_gap pretty (depth + 1)), hlater]
      rfl
termination_by sizeOf ((key, value) :: members)
decreasing_by
  all_goals subst_vars
  all_goals simp only [List.cons.sizeOf_spec, Prod.mk.sizeOf_spec]
  all_goals omega

end

theorem EndsNumber.of_gaps {gaps : List Char} (h : ∀ c ∈ gaps, isGap c = true) : EndsNumber gaps := by
  cases gaps with
  | nil => exact nofun
  | cons c rest =>
    have hgap := h c List.mem_cons_self
    simp only [isGap, Bool.or_eq_true, beq_iff_eq] at hgap
    obtain ((rfl | rfl) | rfl) | rfl := hgap <;> exact endsNumber_cons rest (by decide)

/-- A written document reads back as its value, with gaps behind it or without them. -/
theorem read_render (pretty : Bool) (v : Json) {gaps : String}
    (h : ∀ c ∈ gaps.toList, isGap c = true) :
    read (v.render pretty ++ gaps) = { root := Reading.ofJson v, isEnded := true } := by
  have hchars : (v.render pretty ++ gaps).toList = write pretty 0 v ++ gaps.toList := by
    simp [render]
  have hend : (skipGaps gaps.toList).isEmpty = true := by
    rw [← List.append_nil gaps.toList, skipGaps_append h]
    rfl
  have hread := readValue_write pretty 0 v (enoughFuel (write pretty 0 v ++ gaps.toList))
    (by rw [enoughFuel, List.length_append]; omega) (.of_gaps h)
  rw [read, hchars, readChars, hread]
  simp only [hend]

theorem read_render_alone (pretty : Bool) (v : Json) :
    read (v.render pretty) = { root := Reading.ofJson v, isEnded := true } := by
  have hread : read (v.render pretty ++ "") = _ := read_render pretty v (by simp)
  rwa [String.append_empty] at hread

end GameRegistration.Json
