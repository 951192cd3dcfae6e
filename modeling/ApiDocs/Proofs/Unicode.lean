import ApiDocs.Unicode.Casing
import ApiDocs.Unicode.Letter
import ApiDocs.Unicode.White

/-!
# Letters and their small forms

White space is no letter. The small form of a letter is one letter again, the dotted capital I
apart, and it is a capital only where the letter has no other small form.
-/

namespace ApiDocs

open Unicode

/-- The code points of white space. -/
def whiteCodes : List Nat :=
  [0x09, 0x0A, 0x0B, 0x0C, 0x0D, 0x20, 0x85, 0xA0, 0x1680, 0x2000, 0x2001, 0x2002, 0x2003, 0x2004,
    0x2005, 0x2006, 0x2007, 0x2008, 0x2009, 0x200A, 0x2028, 0x2029, 0x202F, 0x205F, 0x3000]

theorem mem_whiteCodes {c : Char} (h : isWhite c = true) : c.toNat ∈ whiteCodes := by
  simp only [whiteCodes, List.mem_cons, List.not_mem_nil, or_false]
  rw [isWhite] at h
  split at h
  · rw [Bool.or_eq_true, beq_iff_eq, Bool.and_eq_true, decide_eq_true_eq, decide_eq_true_eq] at h
    rcases h with rfl | h
    · decide
    · omega
  · simp only [covered, whiteSpans, Span.covers, List.any_cons, List.any_nil, Bool.or_false,
      Bool.or_eq_true, Bool.and_eq_true, decide_eq_true_eq] at h
    omega

theorem isAlphanumeric_of_isWhite {c : Char} (h : isWhite c = true) : isAlphanumeric c = false := by
  have ha : ∀ code ∈ whiteCodes, isAlphanumeric (Char.ofNat code) = false := by decide +kernel
  rw [← Char.ofNat_toNat c]
  exact ha _ (mem_whiteCodes h)

namespace Unicode

namespace Shift

/-- The image of the first code point. -/
def least (shift : Shift) : Nat :=
  (shift.span.first + shift.distance).toNat

def greatest (shift : Shift) : Nat :=
  (shift.span.last + shift.distance).toNat

/-- Whether images are characters from 128 on that one span of letters covers. -/
def meetsLetters (shift : Shift) : Bool :=
  Nat.ble 128 shift.least &&
    (Nat.blt shift.greatest 0xD800 ||
      Nat.blt 0xDFFF shift.least && Nat.blt shift.greatest 0x110000) &&
    alphanumericSpans.any fun span =>
      span.step == 1 && Nat.ble span.first shift.least && Nat.ble shift.greatest span.last

end Shift

/-- Whether the code points of a span are all even or all odd. -/
def Span.alternates (span : Span) : Bool :=
  span.step == 2 || span.first == span.last

/-- Whether the images of a shift lie before, behind or between the code points of a span. -/
def Shift.misses (shift : Shift) (span : Span) : Bool :=
  Nat.blt shift.greatest span.first || Nat.blt span.last shift.least ||
    shift.span.alternates && span.alternates && (shift.least + span.first) % 2 == 1

theorem Span.bounds_of_covers {span : Span} {code : Nat} (h : span.covers code = true) :
    span.first ≤ code ∧ code ≤ span.last := by
  simp only [covers, Bool.and_eq_true, decide_eq_true_eq] at h
  exact h.1

theorem Span.mod_two_of_covers {span : Span} (ha : span.alternates = true) {code : Nat}
    (h : span.covers code = true) : code % 2 = span.first % 2 := by
  obtain ⟨hfirst, hlast⟩ := bounds_of_covers h
  simp only [alternates, covers, Bool.or_eq_true, Bool.and_eq_true, beq_iff_eq] at ha h
  rcases ha with ha | ha
  · rw [ha] at h
    omega
  · omega

section Image

variable {shift : Shift} {code : Nat}

theorem Shift.image_bounds (h : shift.span.covers code = true) :
    shift.least ≤ (code + shift.distance).toNat ∧
      (code + shift.distance).toNat ≤ shift.greatest := by
  obtain ⟨hfirst, hlast⟩ := Span.bounds_of_covers h
  rw [least, greatest]
  omega

theorem Shift.not_covers_image (hl : 128 ≤ shift.least) {span : Span}
    (hm : shift.misses span = true) (h : shift.span.covers code = true) :
    span.covers (code + shift.distance).toNat = false := by
  obtain ⟨hleast, hgreatest⟩ := image_bounds h
  refine eq_false_of_ne_true fun hc => ?_
  obtain ⟨hfirst, hlast⟩ := Span.bounds_of_covers hc
  simp only [misses, Nat.blt_eq, Bool.or_eq_true, Bool.and_eq_true, beq_iff_eq] at hm
  obtain (hm | hm) | ⟨⟨hfrom, hto⟩, hodd⟩ := hm
  · omega
  · omega
  · have hcode := Span.mod_two_of_covers hfrom h
    have himage := Span.mod_two_of_covers hto hc
    rw [least] at hl hodd hleast
    omega

theorem Shift.isAlphanumeric_image (hm : shift.meetsLetters = true)
    (h : shift.span.covers code = true) :
    isAlphanumeric (Char.ofNat (code + shift.distance).toNat) = true ∧
      (Char.ofNat (code + shift.distance).toNat).toNat = (code + shift.distance).toNat := by
  obtain ⟨hleast, hgreatest⟩ := image_bounds h
  simp only [meetsLetters, Nat.ble_eq, Nat.blt_eq, Bool.and_eq_true, Bool.or_eq_true] at hm
  obtain ⟨⟨hascii, hvalid⟩, hletters⟩ := hm
  have hc : (Char.ofNat (code + shift.distance).toNat).toNat = (code + shift.distance).toNat := by
    have hv : (code + shift.distance).toNat.isValidChar := by
      rw [Nat.isValidChar]
      omega
    rw [Char.ofNat, dif_pos hv]
    rfl
  refine ⟨?_, hc⟩
  rw [isAlphanumeric, hc, if_neg (by omega), covered, List.any_eq_true]
  obtain ⟨span, hs, hspan⟩ := List.any_eq_true.mp hletters
  refine ⟨span, hs, ?_⟩
  simp only [Nat.ble_eq, Bool.and_eq_true, beq_iff_eq] at hspan
  obtain ⟨⟨hstep, hfirst⟩, hlast⟩ := hspan
  simp only [Span.covers, hstep, Nat.mod_one, Bool.and_eq_true, decide_eq_true_eq]
  exact ⟨⟨by omega, by omega⟩, rfl⟩

end Image

/-- The shift of the sign for kelvin, the one that leads to ASCII. -/
def kelvinShift : Shift :=
  ⟨⟨0x212A, 0x212A, 1⟩, -8383⟩

theorem meetsLetters_of_mem : ∀ shift ∈ lowercaseShifts,
    shift = kelvinShift ∨ shift.meetsLetters = true := by
  decide +kernel

theorem misses_of_mem : ∀ shift ∈ lowercaseShifts,
    shift = kelvinShift ∨ uppercaseSpans.all shift.misses = true := by
  decide +kernel

theorem shifted_cases (table : List Shift) (code : Nat) :
    shifted table code = code ∨
      ∃ shift ∈ table, shift.span.covers code = true ∧
        shifted table code = (code + shift.distance).toNat := by
  rw [shifted]
  cases h : table.find? (·.span.covers code) with
  | none => exact .inl rfl
  | some shift =>
    have hc := List.find?_some h
    exact .inr ⟨shift, List.mem_of_find?_eq_some h, hc, rfl⟩

/-- The image under a shift of the table is a letter and no capital. -/
theorem image_lowercaseShifts {shift : Shift} (hs : shift ∈ lowercaseShifts) {code : Nat}
    (h : shift.span.covers code = true) :
    isAlphanumeric (Char.ofNat (code + shift.distance).toNat) = true ∧
      isUppercase (Char.ofNat (code + shift.distance).toNat) = false := by
  by_cases hk : shift = kelvinShift
  · have hc : code = 0x212A := by
      rw [hk] at h
      obtain ⟨hfirst, hlast⟩ := Span.bounds_of_covers h
      exact Nat.le_antisymm hlast hfirst
    rw [hk, hc]
    decide
  · have hm := (meetsLetters_of_mem shift hs).resolve_left hk
    obtain ⟨ha, hc⟩ := Shift.isAlphanumeric_image hm h
    refine ⟨ha, ?_⟩
    have hl : 128 ≤ shift.least := by
      simp only [Shift.meetsLetters, Nat.ble_eq, Bool.and_eq_true] at hm
      exact hm.1.1
    have hb := (Shift.image_bounds h).1
    rw [isUppercase, hc, if_neg (by omega), covered, List.any_eq_false]
    intro span hspan
    have hmiss := List.all_eq_true.mp ((misses_of_mem shift hs).resolve_left hk) span hspan
    rw [Shift.not_covers_image hl hmiss h]
    exact Bool.false_ne_true

/-- The small forms of ASCII letters. -/
theorem toLower_ascii : ∀ code < 128,
    (isAlphanumeric (Char.ofNat code) = true →
      isAlphanumeric (Char.ofNat code).toLower = true) ∧
      isUppercase (Char.ofNat code).toLower = false := by
  decide +kernel

/-- The small form of a letter is a letter, and no capital unless the letter has no other one. -/
theorem exists_toLowercase {c : Char} (hc : c ≠ 'İ') :
    ∃ d, toLowercase c = [d] ∧ (isAlphanumeric c = true → isAlphanumeric d = true) ∧
      (isUppercase d = true → d = c) := by
  by_cases ha : c.toNat < 128
  · refine ⟨c.toLower, by rw [toLowercase, if_pos ha], ?_⟩
    have ht := toLower_ascii c.toNat ha
    rw [Char.ofNat_toNat] at ht
    exact ⟨ht.1, fun hu => absurd hu (by simp [ht.2])⟩
  · have hl : lowercaseSequences.lookup c.toNat = none := by
      have he : c.toNat ≠ 0x130 := fun he => hc (by rw [← Char.ofNat_toNat c, he])
      rw [lowercaseSequences, List.lookup_cons, beq_eq_false_iff_ne.mpr he]
      rfl
    refine ⟨Char.ofNat (shifted lowercaseShifts c.toNat), ?_, ?_⟩
    · rw [toLowercase, if_neg ha, hl]
    · rcases shifted_cases lowercaseShifts c.toNat with he | ⟨shift, hs, hcov, he⟩
      · rw [he, Char.ofNat_toNat]
        exact ⟨id, fun _ => rfl⟩
      · rw [he]
        obtain ⟨hletter, hcapital⟩ := image_lowercaseShifts hs hcov
        exact ⟨fun _ => hletter, fun hu => absurd hu (by simp [hcapital])⟩

theorem ofNat_eq_newline {code : Nat} (h : Char.ofNat code = '\n') : code = 10 := by
  by_cases hv : code.isValidChar
  · rw [Char.ofNat, dif_pos hv] at h
    exact congrArg Char.toNat h
  · rw [Char.ofNat, dif_neg hv] at h
    exact absurd h (by decide)

theorem toUpper_eq_newline : ∀ code < 128,
    (Char.ofNat code).toUpper = '\n' → Char.ofNat code = '\n' := by
  decide +kernel

theorem newline_lt_least : ∀ shift ∈ uppercaseShifts, Nat.blt 10 shift.least = true := by
  decide +kernel

theorem newline_notMem_sequence : ∀ entry ∈ uppercaseSequences, 10 ∉ entry.2 := by
  decide +kernel

/-- The line feed is the capital form of itself alone. -/
theorem eq_newline_of_mem_toUppercase {c : Char} (h : '\n' ∈ toUppercase c) : c = '\n' := by
  rw [toUppercase] at h
  split at h
  · rename_i ha
    have hu := toUpper_eq_newline c.toNat ha
    rw [Char.ofNat_toNat] at hu
    exact hu (List.mem_singleton.mp h).symm
  split at h
  · rename_i codes hc
    obtain ⟨code, hm, he⟩ := List.mem_map.mp h
    obtain ⟨front, back, hl, -⟩ := List.lookup_eq_some_iff.mp hc
    have hn := newline_notMem_sequence (c.toNat, codes) (by rw [hl]; simp)
    exact absurd (ofNat_eq_newline he ▸ hm) hn
  · have he := ofNat_eq_newline (List.mem_singleton.mp h).symm
    rcases shifted_cases uppercaseShifts c.toNat with hs | ⟨shift, hs, hcov, hi⟩
    · rw [hs] at he
      rw [← Char.ofNat_toNat c, he]
    · have hl := (Shift.image_bounds hcov).1
      have hn := Nat.blt_eq.mp (newline_lt_least shift hs)
      omega

end Unicode

end ApiDocs
