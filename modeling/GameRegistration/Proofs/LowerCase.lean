import GameRegistration.Text.LowerCase

/-! Lower-casing character by character. What comes out is small: lowering it once more changes
nothing. A character past ASCII stays there, the Kelvin sign apart. -/
namespace GameRegistration.Text

/-- The images of a span are characters past ASCII and none of them is `İ`; only the Kelvin sign
becomes a plain `k`. -/
def CaseSpan.IsSound (s : CaseSpan) : Bool :=
  (s.first == s.last && s.image == 'k'.toNat) ||
    (decide (0x80 ≤ s.image) &&
      (decide (s.image + (s.last - s.first) < 'İ'.toNat) ||
        decide ('İ'.toNat < s.image ∧ s.image + (s.last - s.first) < 0xD800) ||
        decide (0xDFFF < s.image ∧ s.image + (s.last - s.first) < 0x110000)))

theorem isSound_lowerSpans : ∀ s ∈ lowerSpans, s.IsSound = true := by decide +kernel

theorem CaseSpan.image_cases {s : CaseSpan} (hs : s ∈ lowerSpans) {n : Nat} (hn : s.has n = true) :
    s.image + (n - s.first) = 'k'.toNat ∨
      0x80 ≤ s.image + (n - s.first) ∧ s.image + (n - s.first) ≠ 'İ'.toNat ∧
        (s.image + (n - s.first)).isValidChar := by
  have hsound := isSound_lowerSpans s hs
  have hdotted : 'İ'.toNat = 0x130 := rfl
  simp only [has, IsSound, Bool.and_eq_true, Bool.or_eq_true, decide_eq_true_eq, beq_iff_eq]
    at hn hsound
  unfold Nat.isValidChar
  omega

/-- No image of the span is a capital of `t`: where the ranges overlap, the two take turns. -/
def CaseSpan.Misses (s t : CaseSpan) : Bool :=
  bif s.image.ble t.last && t.first.ble (s.image + (s.last - s.first)) then
    t.step == 2 && (s.step == 2 || s.first == s.last) && (s.image + t.first) % 2 == 1
  else true

theorem misses_lowerSpans : ∀ s ∈ lowerSpans, ∀ t ∈ lowerSpans, s.Misses t = true := by
  have hall : (lowerSpans.all fun s => lowerSpans.all s.Misses) = true := by decide +kernel
  exact fun s hs => List.all_eq_true.1 (List.all_eq_true.1 hall s hs)

theorem CaseSpan.has_eq_false_of_misses {s t : CaseSpan} (h : s.Misses t = true) {n : Nat}
    (hn : s.has n = true) : t.has (s.image + (n - s.first)) = false := by
  rw [← Bool.not_eq_true]
  simp only [has, Bool.and_eq_true, decide_eq_true_eq, beq_iff_eq] at hn ⊢
  rintro ⟨⟨hfirst, hlast⟩, hstep⟩
  have hoverlap : (s.image.ble t.last && t.first.ble (s.image + (s.last - s.first))) = true := by
    rw [Bool.and_eq_true, Nat.ble_eq, Nat.ble_eq]
    omega
  rw [Misses, hoverlap, cond_true] at h
  simp only [Bool.and_eq_true, Bool.or_eq_true, beq_iff_eq] at h
  obtain ⟨⟨htwo, hturns⟩, hodd⟩ := h
  rw [htwo] at hstep
  obtain hpair | hone := hturns
  · rw [hpair] at hn
    omega
  · omega

theorem lowerChar_of_ascii {c : Char} (h : c.toNat < 0x80) : lowerChar c = c.toLower := if_pos h

theorem forall_ascii {P : Char → Prop} (h : ∀ n < 0x80, P (Char.ofNat n)) :
    ∀ c : Char, c.toNat < 0x80 → P c := by
  intro c hc
  rw [← Char.ofNat_toNat c]
  exact h c.toNat hc

theorem lowerChar_cases {c : Char} (h : 0x80 ≤ c.toNat) :
    lowerChar c = c ∨ lowerChar c = 'k' ∨
      0x80 ≤ (lowerChar c).toNat ∧ lowerChar (lowerChar c) = lowerChar c ∧ lowerChar c ≠ 'İ' := by
  rw [lowerChar, if_neg (by omega)]
  cases hfind : lowerSpans.find? (·.has c.toNat) with
  | none => exact .inl rfl
  | some s =>
    right
    have hmem := List.mem_of_find?_eq_some hfind
    have hhas : s.has c.toNat = true := List.find?_some (p := fun s : CaseSpan => s.has c.toNat) hfind
    dsimp only
    obtain hkelvin | ⟨hpast, hne, hvalid⟩ := CaseSpan.image_cases hmem hhas
    · left
      rw [hkelvin]
      rfl
    · right
      have htoNat : (Char.ofNat (s.image + (c.toNat - s.first))).toNat =
          s.image + (c.toNat - s.first) := by
        rw [Char.ofNat, dif_pos hvalid]
        rfl
      have hmissed : lowerSpans.find? (·.has (s.image + (c.toNat - s.first))) = none := by
        rw [List.find?_eq_none]
        intro t ht
        rw [CaseSpan.has_eq_false_of_misses (misses_lowerSpans s hmem t ht) hhas]
        exact Bool.false_ne_true
      refine ⟨by rwa [htoNat], ?_, fun heq => hne (by rw [← htoNat, heq])⟩
      rw [lowerChar, htoNat, if_neg (by omega), hmissed]

/-- Lowering leaves the character as it is; of the capitals, `İ` alone is not lowered by itself. -/
def IsSmall (c : Char) : Prop := lowerChar c = c ∧ c ≠ 'İ'

instance (c : Char) : Decidable (IsSmall c) := inferInstanceAs (Decidable (_ ∧ _))

theorem isSmall_of_lowerChar {c : Char} (h : c ≠ 'İ') : IsSmall (lowerChar c) := by
  by_cases hascii : c.toNat < 0x80
  · rw [lowerChar_of_ascii hascii]
    have hall : ∀ n < 0x80, lowerChar (Char.ofNat n).toLower = (Char.ofNat n).toLower ∧
        (Char.ofNat n).toLower ≠ 'İ' := by decide
    exact forall_ascii (P := fun c => IsSmall c.toLower) hall c hascii
  · obtain heq | hkelvin | hsmall := lowerChar_cases (Nat.not_lt.1 hascii)
    · exact ⟨by rw [heq, heq], by rwa [heq]⟩
    · rw [hkelvin]
      exact ⟨by decide, by decide⟩
    · exact hsmall.2

/-- What a letter may become apart from its own small one: a sigma, or one of the two for `İ`. -/
def specialLetters : List Char := ['ς', 'σ', 'i', '\u0307']

theorem mem_lowerFrom {inWord : Bool} {cs : List Char} {d : Char} (h : d ∈ lowerFrom inWord cs) :
    d ∈ specialLetters ∨ ∃ c ∈ cs, c ≠ 'İ' ∧ d = lowerChar c := by
  induction cs generalizing inWord with
  | nil => cases h
  | cons c rest ih =>
    rw [lowerFrom, List.mem_append] at h
    obtain h | h := h
    · by_cases hsigma : c = 'Σ'
      · rw [if_pos hsigma, List.mem_singleton] at h
        rw [h]
        split <;> exact .inl (by decide)
      · rw [if_neg hsigma] at h
        by_cases hdotted : c = 'İ'
        · rw [if_pos hdotted] at h
          exact .inl (List.mem_append_right ['ς', 'σ'] h)
        · rw [if_neg hdotted, List.mem_singleton] at h
          exact .inr ⟨c, List.mem_cons_self, hdotted, h⟩
    · obtain h | ⟨c', hc', hne, heq⟩ := ih h
      · exact .inl h
      · exact .inr ⟨c', List.mem_cons_of_mem _ hc', hne, heq⟩

theorem eq_of_lowerChar_eq {c d : Char} (hd : d.toNat < 0x80) (hletter : d.isAlpha = false)
    (h : lowerChar c = d) : c = d := by
  by_cases hc : c.toNat < 0x80
  · rw [lowerChar_of_ascii hc] at h
    have hall : ∀ n < 0x80, (Char.ofNat n).toLower.isAlpha = false →
        (Char.ofNat n).toLower = Char.ofNat n := by decide +kernel
    have hkept := forall_ascii (P := fun c => c.toLower.isAlpha = false → c.toLower = c) hall c hc
    rw [h] at hkept
    exact (hkept hletter).symm
  · obtain hself | hkelvin | hpast := lowerChar_cases (Nat.not_lt.1 hc)
    · exact hself.symm.trans h
    · rw [hkelvin] at h
      rw [← h] at hletter
      exact absurd hletter (by decide)
    · rw [h] at hpast
      exact absurd hpast.1 (Nat.not_le.2 hd)

theorem notMem_lower {cs : List Char} {d : Char} (hd : d.toNat < 0x80) (hletter : d.isAlpha = false)
    (h : d ∉ cs) : d ∉ lower cs := by
  intro hmem
  obtain hspecial | ⟨c, hc, -, heq⟩ := mem_lowerFrom hmem
  · have hall : specialLetters.all (fun d => decide (d.toNat < 0x80 → d.isAlpha = true)) = true := by
      decide
    have halpha := of_decide_eq_true (List.all_eq_true.1 hall d hspecial) hd
    exact Bool.false_ne_true (hletter.symm.trans halpha)
  · exact h (eq_of_lowerChar_eq hd hletter heq.symm ▸ hc)

theorem isSmall_of_mem_lowerFrom {inWord : Bool} {cs : List Char} {d : Char}
    (h : d ∈ lowerFrom inWord cs) : IsSmall d := by
  obtain hspecial | ⟨c, -, hne, rfl⟩ := mem_lowerFrom h
  · have hletters : specialLetters.all (fun d => IsSmall d) = true := by decide
    exact of_decide_eq_true (List.all_eq_true.1 hletters d hspecial)
  · exact isSmall_of_lowerChar hne

/-- What was lowered stays as it is, wherever it stands: neither sigma is a capital. -/
theorem lowerFrom_eq_self {inWord : Bool} {cs : List Char} (h : ∀ c ∈ cs, IsSmall c) :
    lowerFrom inWord cs = cs := by
  induction cs generalizing inWord with
  | nil => rfl
  | cons c rest ih =>
    obtain ⟨⟨hlower, hdotted⟩, hrest⟩ := List.forall_mem_cons.1 h
    have hsigma : c ≠ 'Σ' := by
      rintro rfl
      exact absurd hlower (by decide)
    rw [lowerFrom, if_neg hsigma, if_neg hdotted, hlower, ih hrest]
    rfl

theorem exists_lowerFrom_append (inWord : Bool) {front : List Char}
    (h : ∀ c ∈ front, c.toNat < 0x80) (back : List Char) :
    ∃ inWord', lowerFrom inWord (front ++ back) =
      front.map Char.toLower ++ lowerFrom inWord' back := by
  induction front generalizing inWord with
  | nil => exact ⟨inWord, rfl⟩
  | cons c rest ih =>
    obtain ⟨hc, hrest⟩ := List.forall_mem_cons.1 h
    have hsigma : c ≠ 'Σ' := by
      rintro rfl
      exact absurd hc (by decide)
    have hdotted : c ≠ 'İ' := by
      rintro rfl
      exact absurd hc (by decide)
    obtain ⟨inWord', heq⟩ := ih (if isCaseIgnorable c then inWord else isCased c) hrest
    refine ⟨inWord', ?_⟩
    rw [List.cons_append, lowerFrom, heq, if_neg hsigma, if_neg hdotted, lowerChar_of_ascii hc]
    rfl

theorem lowerFrom_of_ascii {inWord : Bool} {cs : List Char} (h : ∀ c ∈ cs, c.toNat < 0x80) :
    lowerFrom inWord cs = cs.map Char.toLower := by
  obtain ⟨inWord', heq⟩ := exists_lowerFrom_append inWord h []
  rw [List.append_nil, lowerFrom, List.append_nil] at heq
  exact heq

end GameRegistration.Text
