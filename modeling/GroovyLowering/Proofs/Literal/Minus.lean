import GroovyLowering.Literal.Decimal
import GroovyLowering.Proofs.Literal.Grammar

/-!
# A minus sign in front of a literal

There are two ways to negate a literal: to read its text with a minus sign in front, and to flip the
sign of the number that the text alone is read as.  The values agree, whatever the radix, the suffix
and the underscores (`readInteger_minus`, `readDecimal_minus`).

The types differ for two integers only.  Without a suffix the magnitude of the least integer of a
type is read as the next wider type, and flipping its sign keeps it there, but with the minus sign
it fits.  The comparison goes through `ReadAs`, once for the text and once for the text with its
sign: of the pairs of cases only four are possible besides those where the two ways agree or the
range of a type rules the pair out.
-/

namespace GroovyLowering.Literal

/-- Whether the first character of a text that is no underscore passes a test. -/
def opensWith (test : Char → Bool) (text : String) : Bool :=
  (withoutUnderscores text.toList).head?.any test

theorem exists_cons_of_opensWith {test : Char → Bool} {text : String} (h : opensWith test text) :
    ∃ c rest, withoutUnderscores text.toList = c :: rest ∧ test c = true := by
  rw [opensWith] at h
  cases htext : withoutUnderscores text.toList with
  | nil =>
    rw [htext] at h
    cases h
  | cons c rest =>
    rw [htext] at h
    exact ⟨c, rest, rfl, h⟩

theorem withoutUnderscores_minus (text : String) :
    withoutUnderscores ("-" ++ text).toList = '-' :: withoutUnderscores text.toList := by
  rw [String.toList_append]
  rfl

/-! ## Flipping the sign of an integer -/

section

variable {value : Int}

theorem range_int32 {v : Int32} (h : v.toInt = value) : -2 ^ 31 ≤ value ∧ value < 2 ^ 31 := by
  subst h
  exact ⟨v.le_toInt, v.toInt_lt⟩

theorem range_int64 {v : Int64} (h : v.toInt = value) : -2 ^ 63 ≤ value ∧ value < 2 ^ 63 := by
  subst h
  exact ⟨v.le_toInt, v.toInt_lt⟩

theorem not_range_int32 (h : ∀ v : Int32, v.toInt ≠ value) :
    ¬(-2 ^ 31 ≤ value ∧ value < 2 ^ 31) := by
  rintro ⟨hlow, hhigh⟩
  exact h _ (Int32.toInt_ofInt_of_le hlow hhigh)

theorem not_range_int64 (h : ∀ v : Int64, v.toInt ≠ value) :
    ¬(-2 ^ 63 ≤ value ∧ value < 2 ^ 63) := by
  rintro ⟨hlow, hhigh⟩
  exact h _ (Int64.toInt_ofInt_of_le hlow hhigh)

end

theorem toInt_neg_int32 {v : Int32} (h : v ≠ Int32.minValue) : (-v).toInt = -v.toInt := by
  have hne : v.toInt ≠ Int32.minValue.toInt := mt Int32.toInt_inj.1 h
  have hrange := range_int32 (v := v) rfl
  rw [Int32.toInt_minValue] at hne
  rw [Int32.toInt_neg, Int.bmod_eq_of_le] <;> omega

theorem toInt_neg_int64 {v : Int64} (h : v ≠ Int64.minValue) : (-v).toInt = -v.toInt := by
  have hne : v.toInt ≠ Int64.minValue.toInt := mt Int64.toInt_inj.1 h
  have hrange := range_int64 (v := v) rfl
  rw [Int64.toInt_minValue] at hne
  rw [Int64.toInt_neg, Int.bmod_eq_of_le] <;> omega

namespace Number

theorem negate_integer {v : Int32} (h : v ≠ Int32.minValue) :
    negate (.integer v) = .integer (-v) := if_neg h

theorem negate_long {v : Int64} (h : v ≠ Int64.minValue) : negate (.long v) = .long (-v) := if_neg h

theorem negate_integer_of_nonneg {v w : Int32} {value : Int} (hv : v.toInt = value)
    (hw : w.toInt = -value) (hvalue : 0 ≤ value) : negate (.integer v) = .integer w := by
  have hne : v ≠ Int32.minValue := by
    rintro rfl
    rw [Int32.toInt_minValue] at hv
    omega
  have hneg : -v = w := by rw [← Int32.toInt_inj, toInt_neg_int32 hne, hv, hw]
  rw [negate_integer hne, hneg]

theorem negate_long_of_nonneg {v w : Int64} {value : Int} (hv : v.toInt = value)
    (hw : w.toInt = -value) (hvalue : 0 ≤ value) : negate (.long v) = .long w := by
  have hne : v ≠ Int64.minValue := by
    rintro rfl
    rw [Int64.toInt_minValue] at hv
    omega
  have hneg : -v = w := by rw [← Int64.toInt_inj, toInt_neg_int64 hne, hv, hw]
  rw [negate_long hne, hneg]

theorem negateText_cons {c : Char} (h : c ≠ '-') (rest : List Char) :
    negateText (c :: rest) = '-' :: c :: rest := by
  simp [negateText, h]

/-- Flipping the sign never loses the value. -/
theorem intValue?_negate (n : Number) : n.negate.intValue? = n.intValue?.map (- ·) := by
  cases n with
  | integer v =>
    by_cases h : v = Int32.minValue
    · subst h
      rfl
    · rw [negate_integer h, intValue?, intValue?, toInt_neg_int32 h, Option.map_some]
  | long v =>
    by_cases h : v = Int64.minValue
    · subst h
      rfl
    · rw [negate_long h, intValue?, intValue?, toInt_neg_int64 h, Option.map_some]
  | bigInteger v => rfl
  | float v => rfl
  | double v => rfl
  | bigDecimal text => rfl

end Number

/-! ## Integers -/

theorem isInteger_cons_iff {c : Char} {rest : List Char} (hc : c ≠ '-') {value : Int}
    {suffix : Option IntegerSuffix} :
    IsInteger (c :: rest) value suffix ↔
      ∃ magnitude : Nat, value = magnitude ∧ IsInteger ('-' :: c :: rest) (-magnitude) suffix := by
  rw [isInteger_iff, splitMinus_of_ne hc]
  constructor
  · rintro ⟨magnitude, hmagnitude, hsuffix, rfl⟩
    exact ⟨magnitude, rfl, isInteger_iff.2 ⟨magnitude, hmagnitude, hsuffix, rfl⟩⟩
  · rintro ⟨magnitude, rfl, h⟩
    obtain ⟨read, hread, hsuffix, hvalue⟩ := isInteger_iff.1 h
    have hsame : (read : Int) = magnitude := Int.neg_inj.1 hvalue
    exact ⟨read, hread, hsuffix, hsame⟩

theorem exists_isInteger {text : String} {n : Number} (h : readInteger text = .ok n) :
    ∃ value suffix, IsInteger (withoutUnderscores text.toList) value suffix := by
  by_contra hnone
  push Not at hnone
  rw [readInteger_of_not_isInteger hnone] at h
  cases h

/-- A text that opens with a digit is an integer literal if it is one with or without a minus sign,
and then it is one both ways. -/
theorem exists_magnitude {text : String} {n : Number} (hopens : opensWith Char.isDigit text)
    (h : readInteger text = .ok n ∨ readInteger ("-" ++ text) = .ok n) :
    ∃ (magnitude : Nat) (suffix : Option IntegerSuffix),
      IsInteger (withoutUnderscores text.toList) magnitude suffix ∧
      IsInteger (withoutUnderscores ("-" ++ text).toList) (-magnitude) suffix := by
  obtain ⟨c, rest, htext, hdigit⟩ := exists_cons_of_opensWith hopens
  have hc : c ≠ '-' := by
    rintro rfl
    cases hdigit
  have hinteger : ∃ value suffix, IsInteger (withoutUnderscores text.toList) value suffix := by
    rcases h with h | h
    · exact exists_isInteger h
    · obtain ⟨_, suffix, h⟩ := exists_isInteger h
      rw [withoutUnderscores_minus, htext] at h
      obtain ⟨magnitude, hmagnitude, hsuffix, rfl⟩ := isInteger_iff.1 h
      rw [htext]
      exact ⟨magnitude, suffix, (isInteger_cons_iff hc).2 ⟨magnitude, rfl, h⟩⟩
  obtain ⟨value, suffix, hinteger⟩ := hinteger
  rw [withoutUnderscores_minus, htext] at *
  obtain ⟨magnitude, rfl, hminus⟩ := (isInteger_cons_iff hc).1 hinteger
  exact ⟨magnitude, suffix, hinteger, hminus⟩

theorem readAs_readInteger {text : String} {value : Int} {suffix : Option IntegerSuffix}
    (h : IsInteger (withoutUnderscores text.toList) value suffix) :
    ReadAs text value suffix (readInteger text) := by
  rw [readInteger_of_isInteger h]
  exact readAs_ofValue text value suffix

/-- How the two ways to negate a literal compare, by its magnitude and its suffix: the first number
is read with the minus sign, and the second one has its sign flipped. -/
inductive MinusCompares : Int → Option IntegerSuffix → Number → Number → Prop where
  | same {value : Int} {suffix : Option IntegerSuffix} {n : Number}
      (h : ¬(suffix = none ∧ (value = 2 ^ 31 ∨ value = 2 ^ 63))) : MinusCompares value suffix n n
  | integer :
      MinusCompares (2 ^ 31) none (.integer Int32.minValue) (.long Int32.minValue.toInt64)
  | long :
      MinusCompares (2 ^ 63) none (.long Int64.minValue) (.bigInteger Int64.minValue.toInt)

namespace ReadAs

variable {text signed : String} {value : Int} {suffix : Option IntegerSuffix}

theorem intValue?_eq {n : Number} (h : ReadAs text value suffix (.ok n)) :
    n.intValue? = some value := by
  cases h with
  | big => rfl
  | integer h => exact congrArg some h
  | long h => exact congrArg some h
  | narrow h => exact congrArg some h
  | middle _ h => exact congrArg some h
  | wide _ => rfl

/-- How a number is read with a minus sign, given how it is read without. -/
theorem minus (hvalue : 0 ≤ value) {n : Number} (h : ReadAs text value suffix (.ok n))
    {result : Except NumberError Number} (hminus : ReadAs signed (-value) suffix result) :
    ∃ m, result = .ok m ∧ MinusCompares value suffix m n.negate := by
  cases h with
  | big =>
    cases hminus
    exact ⟨_, rfl, .same (by simp)⟩
  | integer hv =>
    have hrange := range_int32 hv
    cases hminus with
    | integer hw =>
      rw [Number.negate_integer_of_nonneg hv hw hvalue]
      exact ⟨_, rfl, .same (by simp)⟩
    | noInteger hnone =>
      have hout := not_range_int32 hnone
      omega
  | long hv =>
    have hrange := range_int64 hv
    cases hminus with
    | long hw =>
      rw [Number.negate_long_of_nonneg hv hw hvalue]
      exact ⟨_, rfl, .same (by simp)⟩
    | noLong hnone =>
      have hout := not_range_int64 hnone
      omega
  | narrow hv =>
    have hrange := range_int32 hv
    cases hminus with
    | narrow hw =>
      rw [Number.negate_integer_of_nonneg hv hw hvalue]
      exact ⟨_, rfl, .same (by omega)⟩
    | middle hnone _ =>
      have hout := not_range_int32 hnone
      omega
    | wide hnone =>
      have hout := not_range_int64 hnone
      omega
  | middle hnone hv =>
    have hrange := range_int64 hv
    have hout := not_range_int32 hnone
    cases hminus with
    | narrow hw =>
      have hrange' := range_int32 hw
      obtain rfl : value = 2 ^ 31 := by omega
      obtain rfl := Int32.toInt_inj.1 (hw.trans Int32.toInt_minValue.symm)
      rw [Number.negate_long_of_nonneg hv (Int32.toInt_toInt64 Int32.minValue) hvalue]
      exact ⟨_, rfl, .integer⟩
    | middle hnone' hw =>
      have hout' := not_range_int32 hnone'
      rw [Number.negate_long_of_nonneg hv hw hvalue]
      exact ⟨_, rfl, .same (by omega)⟩
    | wide hnone' =>
      have hout' := not_range_int64 hnone'
      omega
  | wide hnone =>
    have hout := not_range_int64 hnone
    cases hminus with
    | narrow hw =>
      have hrange' := range_int32 hw
      omega
    | middle _ hw =>
      have hrange' := range_int64 hw
      obtain rfl : value = 2 ^ 63 := by omega
      obtain rfl := Int64.toInt_inj.1 (hw.trans Int64.toInt_minValue.symm)
      exact ⟨_, rfl, .long⟩
    | wide hnone' =>
      have hout' := not_range_int64 hnone'
      exact ⟨_, rfl, .same (by omega)⟩

end ReadAs

theorem readInteger_minus {text : String} {n : Number} (hopens : opensWith Char.isDigit text)
    (h : readInteger text = .ok n) :
    ∃ m value suffix, readInteger ("-" ++ text) = .ok m ∧
      IsInteger (withoutUnderscores text.toList) value suffix ∧
      n.intValue? = some value ∧ m.intValue? = some (-value) ∧
      MinusCompares value suffix m n.negate := by
  obtain ⟨magnitude, suffix, hinteger, hminus⟩ := exists_magnitude hopens (.inl h)
  have hread := readAs_readInteger hinteger
  rw [h] at hread
  have hreadMinus := readAs_readInteger hminus
  obtain ⟨m, hm, hcompares⟩ := hread.minus (Int.natCast_nonneg _) hreadMinus
  rw [hm] at hreadMinus
  exact ⟨m, magnitude, suffix, hm, hinteger, hread.intValue?_eq, hreadMinus.intValue?_eq, hcompares⟩

/-! ## Decimals -/

theorem splitSuffix_cons {α : Type} {ofChar? : Char → Option α} (c : Char) {cs : List Char}
    (h : cs ≠ []) :
    splitSuffix ofChar? (c :: cs) =
      (c :: (splitSuffix ofChar? cs).1, (splitSuffix ofChar? cs).2) := by
  rw [splitSuffix, splitSuffix, List.getLast?_cons_of_ne_nil h, List.dropLast_cons_of_ne_nil h]
  cases cs.getLast? with
  | none => rfl
  | some last =>
    dsimp only
    cases ofChar? last <;> rfl

namespace BinaryValue

theorem negate_ofQuotient (format : BinaryFormat) (negative : Bool) (num den : Nat) :
    ofQuotient format (!negative) num den = (ofQuotient format negative num den).negate := by
  rw [ofQuotient, ofQuotient]
  dsimp only
  split_ifs <;> rfl

theorem negate_ofDecimal (format : BinaryFormat) (negative : Bool) (coefficient : Nat)
    (exponent : Int) :
    ofDecimal format (!negative) coefficient exponent =
      (ofDecimal format negative coefficient exponent).negate := by
  rw [ofDecimal, ofDecimal]
  dsimp only
  split_ifs
  · rfl
  · rfl
  · exact negate_ofQuotient _ _ _ _

end BinaryValue

namespace Decimal

/-- The decimal with its sign flipped. -/
def negate : Decimal → Decimal
  | .nan => .nan
  | .infinite negative => .infinite !negative
  | .finite negative coefficient exponent => .finite (!negative) coefficient exponent

/-- Whether a decimal without a sign can start with a character, unless it is a word. -/
def isOpening (c : Char) : Bool := c.isDigit || c == '.'

theorem toBinary_negate (format : BinaryFormat) (d : Decimal) :
    d.negate.toBinary format = (d.toBinary format).negate := by
  cases d with
  | nan => rfl
  | infinite negative => rfl
  | finite negative coefficient exponent => exact BinaryValue.negate_ofDecimal _ _ _ _

theorem ofDigits?_not (negative : Bool) (cs : List Char) :
    ofDigits? (!negative) cs = (ofDigits? negative cs).map negate := by
  rw [ofDigits?, ofDigits?]
  dsimp only
  split_ifs
  · rfl
  · rw [Option.map_map]
    rfl

section

variable {c : Char} (hc : isOpening c = true)

include hc

theorem toNat_le_of_isOpening : c.toNat ≤ 57 := by
  rw [isOpening, Bool.or_eq_true, beq_iff_eq] at hc
  rcases hc with hc | rfl
  · rw [Char.isDigit, Bool.and_eq_true, decide_eq_true_eq, decide_eq_true_eq] at hc
    exact hc.2
  · decide

theorem ne_of_isOpening {d : Char} (hd : isOpening d = false) : c ≠ d := by
  rintro rfl
  rw [hc] at hd
  cases hd

theorem toLower_of_isOpening : c.toLower = c := by
  have hhigh : c.toNat ≤ 57 := toNat_le_of_isOpening hc
  have hnot : ¬(c.val ≥ 'A'.val ∧ c.val ≤ 'Z'.val) := by
    rintro ⟨hlow, _⟩
    have hlow : 65 ≤ c.toNat := hlow
    omega
  exact dif_neg hnot

theorem ofWord?_eq_none (negative : Bool) {cs : List Char} (hmem : c ∈ cs) :
    ofWord? negative cs = none := by
  have hword : ∀ word : String, word.toList.any isOpening = false →
      String.ofList (cs.map Char.toLower) ≠ word := by
    rintro _ hnone rfl
    have hlower := List.mem_map_of_mem (f := Char.toLower) hmem
    rw [toLower_of_isOpening hc] at hlower
    rw [String.toList_ofList] at hnone
    exact absurd hc (List.any_eq_false.1 hnone c hlower)
  rw [ofWord?, if_neg (not_or.2 ⟨hword "inf" (by decide), hword "infinity" (by decide)⟩),
    if_neg (hword "nan" (by decide))]

theorem read?_minus (rest : List Char) :
    read? ('-' :: c :: rest) = (read? (c :: rest)).map negate := by
  have hsign : splitSign (c :: rest) = (false, c :: rest) := by
    have hne : c ≠ '-' := ne_of_isOpening hc (by decide)
    have hne' : c ≠ '+' := ne_of_isOpening hc (by decide)
    simp [splitSign, hne, hne']
  have hminus : splitSign ('-' :: c :: rest) = (true, c :: rest) := rfl
  rw [read?, read?, hsign, hminus]
  dsimp only
  rw [ofWord?_eq_none hc _ List.mem_cons_self, ofWord?_eq_none hc _ List.mem_cons_self,
    Option.none_or, Option.none_or]
  exact ofDigits?_not false _

theorem normalizeExponent_cons (rest : List Char) :
    normalizeExponent (c :: rest) = c :: normalizeExponent rest := by
  have he : c ≠ 'e' := ne_of_isOpening hc (by decide)
  have hE : c ≠ 'E' := ne_of_isOpening hc (by decide)
  rw [normalizeExponent, if_neg (by simp [he, hE])]

theorem normalize_cons (rest : List Char) :
    normalize (c :: rest) = c :: normalizeExponent rest := by
  have hplus : dropPlus (c :: rest) = c :: rest := by
    have hne : c ≠ '+' := ne_of_isOpening hc (by decide)
    simp [dropPlus, hne]
  rw [normalize, hplus, normalizeExponent_cons hc]

theorem normalize_minus (rest : List Char) :
    normalize ('-' :: c :: rest) = '-' :: normalize (c :: rest) := by
  rw [normalize_cons hc, ← normalizeExponent_cons hc]
  rfl

theorem ofChar?_eq_none_of_isOpening : DecimalSuffix.ofChar? c = none := by
  rw [DecimalSuffix.ofChar?.eq_def]
  split
  all_goals first
    | exact absurd rfl (ne_of_isOpening hc (by decide))
    | rfl

end

/-- The number that a decimal with a suffix is read as, given its text. -/
def toNumber (d : Decimal) (text : List Char) : Option DecimalSuffix → Number
  | some .float => .float (d.toBinary binary32)
  | some .double => .double (d.toBinary binary64)
  | some .exact | none => .bigDecimal (String.ofList (normalize text))

theorem toNumber_minus {c : Char} (hc : isOpening c = true) (d : Decimal) (rest : List Char)
    (suffix : Option DecimalSuffix) :
    d.negate.toNumber ('-' :: c :: rest) suffix = (d.toNumber (c :: rest) suffix).negate := by
  have hminus : c ≠ '-' := ne_of_isOpening hc (by decide)
  have hexact : Number.bigDecimal (String.ofList (normalize ('-' :: c :: rest))) =
      (Number.bigDecimal (String.ofList (normalize (c :: rest)))).negate := by
    rw [Number.negate, String.toList_ofList, normalize_minus hc, normalize_cons hc,
      Number.negateText_cons hminus]
  rcases suffix with _ | _ | _ | _
  · exact hexact
  · exact congrArg Number.float (toBinary_negate _ _)
  · exact congrArg Number.double (toBinary_negate _ _)
  · exact hexact

end Decimal

theorem readDecimal_eq_ok_iff {text : String} {body : List Char} {suffix : Option DecimalSuffix}
    (hsplit : splitSuffix DecimalSuffix.ofChar? (withoutUnderscores text.toList) = (body, suffix))
    {n : Number} :
    readDecimal text = .ok n ↔ ∃ d, Decimal.read? body = some d ∧ d.toNumber body suffix = n := by
  simp only [readDecimal, hsplit]
  cases Decimal.read? body with
  | none => simp
  | some d => rcases suffix with _ | _ | _ | _ <;> simp [Decimal.toNumber]

/-- The suffix letter is taken off the end, so what is in front of it opens the same way. -/
theorem exists_splitSuffix_cons {c : Char} (hc : Decimal.isOpening c = true) (rest : List Char) :
    ∃ front suffix, splitSuffix DecimalSuffix.ofChar? (c :: rest) = (c :: front, suffix) := by
  cases rest with
  | nil => exact ⟨[], none, by simp [splitSuffix, Decimal.ofChar?_eq_none_of_isOpening hc]⟩
  | cons d rest => exact ⟨_, _, splitSuffix_cons c (List.cons_ne_nil d rest)⟩

/-- A decimal with a minus sign is the number that it is without, with its sign flipped. -/
theorem readDecimal_minus {text : String} {n : Number} (hopens : opensWith Decimal.isOpening text)
    (h : readDecimal text = .ok n) : readDecimal ("-" ++ text) = .ok n.negate := by
  obtain ⟨c, rest, htext, hc⟩ := exists_cons_of_opensWith hopens
  obtain ⟨front, suffix, hsplit⟩ := exists_splitSuffix_cons hc rest
  have hminus : splitSuffix DecimalSuffix.ofChar? (withoutUnderscores ("-" ++ text).toList) =
      ('-' :: c :: front, suffix) := by
    rw [withoutUnderscores_minus, htext, splitSuffix_cons '-' (List.cons_ne_nil c rest), hsplit]
  rw [← htext] at hsplit
  obtain ⟨d, hread, rfl⟩ := (readDecimal_eq_ok_iff hsplit).1 h
  refine (readDecimal_eq_ok_iff hminus).2 ⟨d.negate, ?_, Decimal.toNumber_minus hc d front suffix⟩
  rw [Decimal.read?_minus hc, hread, Option.map_some]

/-! ## Both ways -/

/-- **Two ways to negate a literal.**  A literal that is read without a minus sign is read with it.
For an integer the value is the opposite one, and so is the number with its sign flipped; the two
have different types exactly without a suffix for the magnitudes `2 ^ 31` and `2 ^ 63`, where the
minus sign gives the narrower type.  For a decimal the two are equal. -/
theorem negated_both_ways :
    (∀ text n, opensWith Char.isDigit text → readInteger text = .ok n →
      ∃ m value suffix, readInteger ("-" ++ text) = .ok m ∧
        IsInteger (withoutUnderscores text.toList) value suffix ∧
        n.intValue? = some value ∧ m.intValue? = some (-value) ∧
        MinusCompares value suffix m n.negate) ∧
    ∀ text n, opensWith Decimal.isOpening text → readDecimal text = .ok n →
      readDecimal ("-" ++ text) = .ok n.negate :=
  ⟨fun _ _ hopens h => readInteger_minus hopens h, fun _ _ hopens h => readDecimal_minus hopens h⟩

/-- The first integer of 64 bits, and a decimal that opens with a point. -/
theorem negated_both_ways_long :
    opensWith Char.isDigit "2147483_648" = true ∧
    readInteger "2147483_648" = .ok (.long 2147483648) ∧
    (∃ m value suffix, readInteger "-2147483_648" = .ok m ∧
      IsInteger (withoutUnderscores "2147483_648".toList) value suffix ∧
      value = 2147483648 ∧ m.intValue? = some (-value) ∧
      MinusCompares value suffix m (.long (-2147483648))) ∧
    opensWith Decimal.isOpening "_.5e+3" = true ∧
    readDecimal "_.5e+3" = .ok (.bigDecimal ".5E3") ∧
    readDecimal "-_.5e+3" = .ok (.bigDecimal "-.5E3") := by
  have hinteger : readInteger "2147483_648" = .ok (.long 2147483648) := rfl
  have hdecimal : readDecimal "_.5e+3" = .ok (.bigDecimal ".5E3") := rfl
  obtain ⟨m, value, suffix, hm, hlit, hvalue, hminus, hcompares⟩ :=
    negated_both_ways.1 "2147483_648" _ (by decide) hinteger
  cases hvalue
  exact ⟨by decide, hinteger, ⟨m, _, suffix, hm, hlit, rfl, hminus, hcompares⟩, by decide, hdecimal,
    negated_both_ways.2 "_.5e+3" _ (by decide) hdecimal⟩

end GroovyLowering.Literal
