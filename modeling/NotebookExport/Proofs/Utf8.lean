import Mathlib.Tactic.Common
import NotebookExport.Text.Utf8

/-!
# Bytes and texts

Decoding undoes encoding, and accepts nothing else: bytes have a text exactly if they are the bytes
of this text. The bytes of a character are described once, by how many they are; a step of decoding
finds such bytes and no others, and they are what the character is encoded as.
-/

namespace NotebookExport.Text.Utf8

/-! ### The bytes of a character -/

lemma isTail_iff {b : UInt8} : isTail b ↔ 0x80 ≤ b.toNat ∧ b.toNat ≤ 0xBF := by
  simp [isTail, UInt8.le_iff_toNat_le]

lemma tailBits_eq {b : UInt8} (h : isTail b) : b.toNat = 0x80 + tailBits b ∧ tailBits b < 64 := by
  rw [isTail_iff] at h
  simp only [tailBits]
  omega

/-- Whether a byte may follow the first byte of a longer character. -/
def IsSecond (first b : UInt8) : Prop :=
  isTail b ∧ (first.toNat = 0xE0 → 0xA0 ≤ b.toNat) ∧ (first.toNat = 0xED → b.toNat ≤ 0x9F) ∧
    (first.toNat = 0xF0 → 0x90 ≤ b.toNat) ∧ (first.toNat = 0xF4 → b.toNat ≤ 0x8F)

lemma isSecond_iff {a b : UInt8} :
    IsSecond a b ↔
      (secondRange a).1.toNat ≤ b.toNat ∧ b.toNat ≤ (secondRange a).2.toNat := by
  simp only [IsSecond, isTail_iff, secondRange, ← UInt8.toNat_inj, UInt8.reduceToNat]
  split_ifs <;> simp only [UInt8.reduceToNat] <;> omega

/-- Bytes that stand for a character, and its number. -/
inductive IsSequence : List UInt8 → Nat → Prop where
  | one {a : UInt8} (ha : a.toNat < 0x80) : IsSequence [a] a.toNat
  | two {a b : UInt8} (ha : 0xC2 ≤ a.toNat) (ha' : a.toNat ≤ 0xDF) (hb : isTail b) :
      IsSequence [a, b] (a.toNat % 32 * 64 + tailBits b)
  | three {a b c : UInt8} (ha : 0xE0 ≤ a.toNat) (ha' : a.toNat ≤ 0xEF) (hb : IsSecond a b)
      (hc : isTail c) :
      IsSequence [a, b, c] ((a.toNat % 16 * 64 + tailBits b) * 64 + tailBits c)
  | four {a b c d : UInt8} (ha : 0xF0 ≤ a.toNat) (ha' : a.toNat ≤ 0xF4) (hb : IsSecond a b)
      (hc : isTail c) (hd : isTail d) :
      IsSequence [a, b, c, d]
        (((a.toNat % 8 * 64 + tailBits b) * 64 + tailBits c) * 64 + tailBits d)

namespace IsSequence

variable {bytes : List UInt8} {n m : Nat}

lemma of_eq (h : IsSequence bytes n) (hm : n = m) : IsSequence bytes m := hm ▸ h

lemma isValidChar (h : IsSequence bytes n) : n.isValidChar := by
  cases h with
  | one ha => exact .inl (by omega)
  | two ha ha' hb =>
    have hb' := tailBits_eq hb
    exact .inl (by omega)
  | three ha ha' hb hc =>
    obtain ⟨hb, h1, h2, h3, h4⟩ := hb
    have hb' := tailBits_eq hb
    have hc' := tailBits_eq hc
    simp only [Nat.isValidChar]
    omega
  | four ha ha' hb hc hd =>
    obtain ⟨hb, h1, h2, h3, h4⟩ := hb
    have hb' := tailBits_eq hb
    have hc' := tailBits_eq hc
    have hd' := tailBits_eq hd
    simp only [Nat.isValidChar]
    omega

lemma utf8EncodeChar (h : IsSequence bytes n) : String.utf8EncodeChar (Char.ofNat n) = bytes := by
  have hn : (Char.ofNat n).val.toNat = n := by
    rw [Char.ofNat, dif_pos h.isValidChar]
    rfl
  simp only [String.utf8EncodeChar, hn]
  cases h with
  | one ha => rw [if_pos (by omega), UInt8.ofNat_toNat]
  | two ha ha' hb =>
    have hb' := tailBits_eq hb
    rw [if_neg (by omega), if_pos (by omega)]
    simp only [List.cons.injEq, ← UInt8.toNat_inj, UInt8.toNat_ofNat', and_true]
    omega
  | three ha ha' hb hc =>
    obtain ⟨hb, h1, h2, h3, h4⟩ := hb
    have hb' := tailBits_eq hb
    have hc' := tailBits_eq hc
    rw [if_neg (by omega), if_neg (by omega), if_pos (by omega)]
    simp only [List.cons.injEq, ← UInt8.toNat_inj, UInt8.toNat_ofNat', and_true]
    omega
  | four ha ha' hb hc hd =>
    obtain ⟨hb, h1, h2, h3, h4⟩ := hb
    have hb' := tailBits_eq hb
    have hc' := tailBits_eq hc
    have hd' := tailBits_eq hd
    rw [if_neg (by omega), if_neg (by omega), if_neg (by omega)]
    simp only [List.cons.injEq, ← UInt8.toNat_inj, UInt8.toNat_ofNat', and_true]
    omega

end IsSequence

/-- A continuing byte carries the bits that it was made of. -/
lemma tail_ofNat (n : Nat) :
    (UInt8.ofNat (n % 64 + 128)).toNat = n % 64 + 128 ∧ isTail (UInt8.ofNat (n % 64 + 128)) ∧
      tailBits (UInt8.ofNat (n % 64 + 128)) = n % 64 := by
  have hn : (UInt8.ofNat (n % 64 + 128)).toNat = n % 64 + 128 := by
    rw [UInt8.toNat_ofNat']
    omega
  rw [isTail_iff, tailBits, hn]
  omega

/-- Every character is encoded as such bytes. -/
lemma isSequence_utf8EncodeChar (c : Char) :
    IsSequence (String.utf8EncodeChar c) c.toNat := by
  have hvalid : c.toNat.isValidChar := c.valid
  have hval : c.val.toNat = c.toNat := rfl
  simp only [String.utf8EncodeChar, hval]
  generalize c.toNat = n at hvalid
  simp only [Nat.isValidChar] at hvalid
  have hfirst : ∀ k, k < 256 → (UInt8.ofNat k).toNat = k := fun k hk => by
    rw [UInt8.toNat_ofNat', Nat.mod_eq_of_lt hk]
  obtain ⟨h1, htail1, hbits1⟩ := tail_ofNat n
  obtain ⟨h2, htail2, hbits2⟩ := tail_ofNat (n / 64)
  obtain ⟨h3, htail3, hbits3⟩ := tail_ofNat (n / 4096)
  split_ifs with hone htwo hthree
  · have ha := hfirst n (by omega)
    exact (IsSequence.one (by omega)).of_eq ha
  · have ha := hfirst (n / 64 % 32 + 192) (by omega)
    exact (IsSequence.two (by omega) (by omega) htail1).of_eq (by rw [ha, hbits1]; omega)
  · have ha := hfirst (n / 4096 % 16 + 224) (by omega)
    have hsecond : IsSecond (UInt8.ofNat (n / 4096 % 16 + 224))
        (UInt8.ofNat (n / 64 % 64 + 128)) :=
      ⟨htail2, by omega, by omega, by omega, by omega⟩
    exact (IsSequence.three (by omega) (by omega) hsecond htail1).of_eq
      (by rw [ha, hbits1, hbits2]; omega)
  · have ha := hfirst (n / 262144 % 8 + 240) (by omega)
    have hsecond : IsSecond (UInt8.ofNat (n / 262144 % 8 + 240))
        (UInt8.ofNat (n / 4096 % 64 + 128)) :=
      ⟨htail3, by omega, by omega, by omega, by omega⟩
    exact (IsSequence.four (by omega) (by omega) hsecond htail2 htail1).of_eq
      (by rw [ha, hbits1, hbits2, hbits3]; omega)

/-! ### Steps -/

/-- A step of decoding finds the bytes of a character. -/
lemma step_of_isSequence {a : UInt8} {tail : List UInt8} {n : Nat} (h : IsSequence (a :: tail) n)
    (rest : List UInt8) : step a (tail ++ rest) = .char (.ofNat n) rest := by
  have hsecond : ∀ b, IsSecond a b ↔ _ := fun b => isSecond_iff
  generalize hrange : secondRange a = range at hsecond
  obtain ⟨low, high⟩ := range
  simp only [step, hrange, UInt8.lt_iff_toNat_lt, UInt8.le_iff_toNat_le, Bool.and_eq_true,
    decide_eq_true_eq, UInt8.reduceToNat]
  cases h with
  | one ha => simp [ha]
  | two ha ha' hb =>
    rw [if_neg (by omega), if_pos ⟨ha, ha'⟩]
    simp [hb]
  | three ha ha' hb hc =>
    rw [if_neg (by omega), if_neg (by omega), if_pos ⟨ha, ha'⟩]
    simp [(hsecond _).mp hb, hc]
  | four ha ha' hb hc hd =>
    rw [if_neg (by omega), if_neg (by omega), if_neg (by omega), if_pos ⟨ha, ha'⟩]
    simp [(hsecond _).mp hb, hc, hd]

/-- A step of decoding finds nothing else. -/
lemma exists_isSequence_of_step {a : UInt8} {bytes rest : List UInt8} {char : Char}
    (h : step a bytes = .char char rest) :
    ∃ tail n, IsSequence (a :: tail) n ∧ bytes = tail ++ rest ∧ char = .ofNat n := by
  have hsecond : ∀ b, IsSecond a b ↔ _ := fun b => isSecond_iff
  generalize hrange : secondRange a = range at hsecond
  obtain ⟨low, high⟩ := range
  simp only [step, hrange, UInt8.lt_iff_toNat_lt, UInt8.le_iff_toNat_le, Bool.and_eq_true,
    decide_eq_true_eq, UInt8.reduceToNat] at h
  split_ifs at h with hone htwo hthree hfour
  · obtain ⟨rfl, rfl⟩ := Step.char.inj h
    exact ⟨[], _, .one hone, rfl, rfl⟩
  · split at h
    case h_1 b rest' =>
      split_ifs at h with hb
      obtain ⟨rfl, rfl⟩ := Step.char.inj h
      exact ⟨[b], _, .two htwo.1 htwo.2 hb, rfl, rfl⟩
    case h_2 => cases h
  · split at h
    case h_1 b rest' =>
      split_ifs at h with hb
      split at h
      case h_1 c rest'' =>
        split_ifs at h with hc
        obtain ⟨rfl, rfl⟩ := Step.char.inj h
        exact ⟨[b, c], _, .three hthree.1 hthree.2 ((hsecond b).mpr hb) hc, rfl, rfl⟩
      case h_2 => cases h
    case h_2 => cases h
  · split at h
    case h_1 b rest' =>
      split_ifs at h with hb
      split at h
      case h_1 c rest'' =>
        split_ifs at h with hc
        split at h
        case h_1 d rest''' =>
          split_ifs at h with hd
          obtain ⟨rfl, rfl⟩ := Step.char.inj h
          exact ⟨[b, c, d], _, .four hfour.1 hfour.2 ((hsecond b).mpr hb) hc hd, rfl, rfl⟩
        case h_2 => cases h
      case h_2 => cases h
    case h_2 => cases h

/-- A step of decoding reads what a character is encoded as. -/
theorem step_eq_char_iff {a : UInt8} {bytes rest : List UInt8} {char : Char} :
    step a bytes = .char char rest ↔ a :: bytes = String.utf8EncodeChar char ++ rest := by
  constructor
  · intro h
    obtain ⟨tail, n, hsequence, rfl, rfl⟩ := exists_isSequence_of_step h
    rw [hsequence.utf8EncodeChar, List.cons_append]
  · intro h
    have hsequence := isSequence_utf8EncodeChar char
    cases hbytes : String.utf8EncodeChar char with
    | nil =>
      rw [hbytes] at hsequence
      cases hsequence
    | cons b tail =>
      rw [hbytes] at h hsequence
      rw [List.cons_append] at h
      obtain ⟨rfl, rfl⟩ := List.cons.inj h
      rw [step_of_isSequence hsequence, Char.ofNat_toNat]

/-! ### Texts -/

/-- The bytes of characters begin with a step to the first of them. -/
lemma cons_eq_flatMap_iff {a : UInt8} {bytes : List UInt8} {chars : List Char} :
    a :: bytes = chars.flatMap String.utf8EncodeChar ↔
      ∃ char rest, chars = char :: rest ∧
        step a bytes = .char char (rest.flatMap String.utf8EncodeChar) := by
  cases chars with
  | nil => simp
  | cons char rest =>
    rw [List.flatMap_cons, ← step_eq_char_iff]
    constructor
    · intro h
      exact ⟨char, rest, rfl, h⟩
    · rintro ⟨_, _, heq, h⟩
      obtain ⟨rfl, rfl⟩ := List.cons.inj heq
      exact h

/-- Bytes are read as characters, without a broken piece, exactly if they are the bytes of these. -/
lemma mapM_pieces_eq_some_iff {fuel : Nat} {bytes : List UInt8} {chars : List Char}
    (hfuel : bytes.length ≤ fuel) :
    (pieces fuel bytes).mapM id = some chars ↔ bytes = chars.flatMap String.utf8EncodeChar := by
  induction fuel generalizing bytes chars with
  | zero =>
    obtain rfl := List.length_eq_zero_iff.mp (Nat.le_zero.mp hfuel)
    cases chars <;> simp [pieces]
  | succ fuel ih =>
    cases bytes with
    | nil => cases chars <;> simp [pieces]
    | cons a bytes =>
      rw [cons_eq_flatMap_iff]
      cases hstep : step a bytes with
      | broken rest => simp [pieces, hstep]
      | char c rest =>
        have hrest : rest.length ≤ fuel := by
          have hlength := congrArg List.length (step_eq_char_iff.mp hstep)
          have hpos := c.utf8Size_pos
          simp only [List.length_cons, List.length_append, String.length_utf8EncodeChar]
            at hlength hfuel
          omega
        have hread : (pieces (fuel + 1) (a :: bytes)).mapM id = some chars ↔
            ∃ cs, (pieces fuel rest).mapM id = some cs ∧ c :: cs = chars := by
          simp [pieces, hstep, Option.bind_eq_some_iff]
        rw [hread]
        constructor
        · rintro ⟨cs, hcs, rfl⟩
          exact ⟨c, cs, rfl, by rw [(ih hrest).mp hcs]⟩
        · rintro ⟨_, cs, rfl, heq⟩
          obtain ⟨rfl, hcs⟩ := Step.char.inj heq
          exact ⟨cs, (ih hrest).mpr hcs, rfl⟩

/-- Bytes have a text exactly if they are the bytes of this text. -/
theorem decode?_eq_some_iff {bytes : List UInt8} {text : String} :
    decode? bytes = some text ↔ bytes = encode text := by
  rw [decode?, encode, ← mapM_pieces_eq_some_iff (Nat.le_refl _)]
  cases (pieces bytes.length bytes).mapM id with
  | none => simp
  | some chars => simp [← String.toList_inj]

end NotebookExport.Text.Utf8
