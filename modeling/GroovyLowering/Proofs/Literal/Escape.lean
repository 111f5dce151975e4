import GroovyLowering.Literal.Quoted

/-!
# What a text stands for

A text stands for a value if it is decoded to that value whatever is behind it, and what is behind
it is decoded on its own (`StandsFor`).  Texts that stand for values can be joined, so it is enough
to know what the pieces of a text stand for: an escape, a character that starts none, or a unit of
16 bits in `\uXXXX` form.

A unit stands for the character with its code.  The units of a surrogate pair have no characters of
their own, and no two units are read together, so each of them stands for the six characters it is
written with.  That is the one way in which the units of a text differ from the text
(`decode_flatMap_unicodeEscape`).
-/

namespace GroovyLowering.Literal

/-- A text is decoded to a value wherever it stands. -/
def StandsFor (mode : EscapeMode) (cs value : List Char) : Prop :=
  ∀ t, decode mode (cs ++ t) = value ++ decode mode t

section

variable {mode : EscapeMode} {c first second : Char} {cs ds value more : List Char}

theorem StandsFor.decode_eq (h : StandsFor mode cs value) : decode mode cs = value := by
  have hnil : decode mode (cs ++ []) = value ++ [] := h []
  rwa [List.append_nil, List.append_nil] at hnil

theorem standsFor_nil : StandsFor mode [] [] := fun _ => rfl

theorem StandsFor.append (h : StandsFor mode cs value) (h' : StandsFor mode ds more) :
    StandsFor mode (cs ++ ds) (value ++ more) := by
  intro t
  rw [List.append_assoc, h, h', List.append_assoc]

/-- Where each character is written as a text that stands for something, so is a whole text. -/
theorem standsFor_flatMap {write read : Char → List Char}
    (h : ∀ c, StandsFor mode (write c) (read c)) (value : List Char) :
    StandsFor mode (value.flatMap write) (value.flatMap read) := by
  induction value with
  | nil => exact standsFor_nil
  | cons c value ih =>
    rw [List.flatMap_cons, List.flatMap_cons]
    exact (h c).append ih

theorem standsFor_pair (h : ∀ t, mode.escape? first (second :: t) = some ⟨[c], 1⟩) :
    StandsFor mode [first, second] [c] := fun t => decode_escape (h t)

theorem standsFor_plain (h : ∀ t, mode.escape? c t = none) : StandsFor mode [c] [c] :=
  fun t => decode_plain (h t)

/-- A character that is no backslash, and no dollar where dollars count, starts no escape. -/
theorem EscapeMode.escape?_eq_none (hbackslash : c ≠ '\\')
    (hdollar : ¬(c = '$' ∧ mode = .dollarSlashy)) (t : List Char) : mode.escape? c t = none := by
  rw [escape?, if_neg hbackslash, if_neg hdollar]

/-- Under every table a text without backslashes and dollars stands for itself. -/
theorem standsFor_self (h : ∀ c ∈ cs, c ≠ '\\' ∧ c ≠ '$') : StandsFor mode cs cs := by
  induction cs with
  | nil => exact standsFor_nil
  | cons c cs ih =>
    obtain ⟨⟨hbackslash, hdollar⟩, hcs⟩ := List.forall_mem_cons.1 h
    have hplain : ∀ t, mode.escape? c t = none :=
      EscapeMode.escape?_eq_none hbackslash fun h => hdollar h.1
    exact (standsFor_plain hplain).append (ih hcs)

end

/-! ## Units of 16 bits -/

theorem digitValue?_hexDigit {n : Nat} (h : n < 16) : digitValue? 16 (hexDigit n) = some n :=
  (by decide : ∀ n < 16, digitValue? 16 (hexDigit n) = some n) n h

theorem hexDigit_ne {n : Nat} (h : n < 16) :
    hexDigit n ≠ '\r' ∧ hexDigit n ≠ '\\' ∧ hexDigit n ≠ '$' :=
  (by decide : ∀ n < 16, hexDigit n ≠ '\r' ∧ hexDigit n ≠ '\\' ∧ hexDigit n ≠ '$') n h

theorem charOfCode?_toNat (c : Char) : charOfCode? c.toNat = some c := by
  have hvalid : c.toNat.isValidChar := c.valid
  rw [charOfCode?, dif_pos hvalid]
  rfl

/-- Surrogates are the codes of no character. -/
theorem charOfCode?_surrogate {n : Nat} (h : 0xD800 ≤ n) (h' : n ≤ 0xDFFF) :
    charOfCode? n = none := by
  rw [charOfCode?, dif_neg]
  rintro (hlow | ⟨hhigh, -⟩)
  · exact absurd hlow (Nat.not_lt.2 h)
  · exact absurd h' (Nat.not_le.2 hhigh)

section

variable {n : Nat} (hn : n < 0x10000)
include hn

/-- The digits of a unit give back the character with that code, if there is one. -/
theorem unicodeEscape?_unicodeUnit (t : List Char) :
    unicodeEscape? ((unicodeUnit n).tail ++ t) = (charOfCode? n).map fun c => ⟨[c], 5⟩ := by
  have h₁ := digitValue?_hexDigit (Nat.mod_lt (n / 4096) (by decide : 0 < 16))
  have h₂ := digitValue?_hexDigit (Nat.mod_lt (n / 256) (by decide : 0 < 16))
  have h₃ := digitValue?_hexDigit (Nat.mod_lt (n / 16) (by decide : 0 < 16))
  have h₄ := digitValue?_hexDigit (Nat.mod_lt n (by decide : 0 < 16))
  have hcode : ((n / 4096 % 16 * 16 + n / 256 % 16) * 16 + n / 16 % 16) * 16 + n % 16 = n := by
    omega
  simp only [unicodeUnit, List.tail_cons, List.cons_append, unicodeEscape?, unicodeChar?,
    List.all_cons, List.all_nil, isDigitOf, digitsValue, List.foldl_cons, List.foldl_nil, h₁, h₂,
    h₃, h₄, Option.isSome_some, Option.getD_some, Bool.and_self, if_true, Nat.zero_mul,
    Nat.zero_add, hcode]

/-- A unit stands for the character with its code. -/
theorem standsFor_unicodeUnit {c : Char} (mode : EscapeMode) (h : charOfCode? n = some c) :
    StandsFor mode (unicodeUnit n) [c] := by
  intro t
  have hescape : mode.escape? '\\' ((unicodeUnit n).tail ++ t) = some ⟨[c], 5⟩ := by
    rw [EscapeMode.escape?, if_pos rfl, unicodeEscape?_unicodeUnit hn, h]
    rfl
  exact decode_escape hescape

/-- A unit that is the code of no character starts no escape, so it stands for what is written. -/
theorem standsFor_unicodeUnit_self (mode : EscapeMode) (h : charOfCode? n = none) :
    StandsFor mode (unicodeUnit n) (unicodeUnit n) := by
  have hdigit : ∀ k : Nat, hexDigit (k % 16) ≠ '\\' ∧ hexDigit (k % 16) ≠ '$' :=
    fun k => (hexDigit_ne (Nat.mod_lt k (by decide))).2
  have hdigits : StandsFor mode (unicodeUnit n).tail (unicodeUnit n).tail :=
    standsFor_self (by simp [unicodeUnit, hdigit])
  intro t
  have hescape : mode.escape? '\\' ((unicodeUnit n).tail ++ t) = none := by
    rw [EscapeMode.escape?, if_pos rfl, unicodeEscape?_unicodeUnit hn, h]
    cases mode <;> rfl
  exact (decode_plain hescape).trans (congrArg (List.cons '\\') (hdigits t))

end

/-! ## The units of a text -/

theorem unicodeEscape_of_lt {c : Char} (h : c.toNat < 0x10000) :
    unicodeEscape c = unicodeUnit c.toNat := by
  rw [unicodeEscape, units16, if_pos h, List.flatMap_singleton]

/-- What the units of a character are read as: the character if it takes one unit, and the two
units as they are written if it takes a surrogate pair. -/
def unitsReading (c : Char) : List Char :=
  if c.toNat < 0x10000 then [c] else unicodeEscape c

theorem standsFor_unicodeEscape (mode : EscapeMode) (c : Char) :
    StandsFor mode (unicodeEscape c) (unitsReading c) := by
  by_cases h : c.toNat < 0x10000
  · rw [unitsReading, if_pos h, unicodeEscape_of_lt h]
    exact standsFor_unicodeUnit h mode (charOfCode?_toNat c)
  · have hpair : unicodeEscape c = unicodeUnit (0xD800 + (c.toNat - 0x10000) / 0x400) ++
        unicodeUnit (0xDC00 + (c.toNat - 0x10000) % 0x400) := by
      simp [unicodeEscape, units16, h]
    have hvalid : c.toNat.isValidChar := c.valid
    have hmax : c.toNat < 0x110000 := by
      rw [Nat.isValidChar] at hvalid
      omega
    rw [unitsReading, if_neg h, hpair]
    exact (standsFor_unicodeUnit_self (by omega) mode
      (charOfCode?_surrogate (by omega) (by omega))).append
        (standsFor_unicodeUnit_self (by omega) mode
          (charOfCode?_surrogate (by omega) (by omega)))

/-- Only characters of one unit are read back from their units. -/
theorem flatMap_unitsReading_eq_self_iff {value : List Char} :
    value.flatMap unitsReading = value ↔ ∀ c ∈ value, c.toNat < 0x10000 := by
  induction value with
  | nil => simp
  | cons c value ih =>
    rw [List.flatMap_cons, List.forall_mem_cons, ← ih, unitsReading]
    by_cases h : c.toNat < 0x10000
    · simp [h]
    · -- The units open with a backslash, which takes one unit.
      rw [if_neg h]
      have hopens : unicodeEscape c = '\\' :: (unicodeEscape c).tail := by
        simp [unicodeEscape, units16, h, unicodeUnit]
      rw [hopens, List.cons_append]
      constructor
      · intro heq
        have hc : '\\' = c := List.head_eq_of_cons_eq heq
        exact absurd (hc ▸ by decide) h
      · exact fun hlt => absurd hlt.1 h

/-- **Units are read one by one.**  Under every table of escapes the units of a text are read as its
characters, but for the surrogate pairs, which stay as they are written.  So the text is read back
exactly if each of its characters takes one unit. -/
theorem decode_flatMap_unicodeEscape (mode : EscapeMode) (value : List Char) :
    decode mode (value.flatMap unicodeEscape) = value.flatMap unitsReading ∧
      (decode mode (value.flatMap unicodeEscape) = value ↔ ∀ c ∈ value, c.toNat < 0x10000) := by
  have hdecode : decode mode (value.flatMap unicodeEscape) = value.flatMap unitsReading :=
    (standsFor_flatMap (standsFor_unicodeEscape mode) value).decode_eq
  rw [hdecode]
  exact ⟨rfl, flatMap_unitsReading_eq_self_iff⟩

/-- A surrogate pair is not read as the character it is written for. -/
theorem decode_surrogatePair :
    decode .standard (['😀'].flatMap unicodeEscape) ≠ ['😀'] ∧
      decode .standard (['😀'].flatMap unicodeEscape) = "\\uD83D\\uDE00".toList := by
  decide

end GroovyLowering.Literal
