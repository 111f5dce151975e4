import GroovyLowering.Proofs.Literal.Integer
import Mathlib.Tactic.IntervalCases
import Mathlib.Tactic.Ring

/-!
# The grammar of integer literals

An integer literal is a sign, a magnitude in one of four radixes and a suffix letter.  `IsInteger`
says which texts without underscores these are, and which value and type each of them stands for.
The value of a run of digits is said by `Digits` without reading it from left to right.

`readInteger` peels in the order sign, suffix, radix mark.  That no step takes what belongs to
another rests on three facts: a magnitude starts with a digit (`Magnitude.exists_cons`), so it has
no sign; it ends in a digit (`Magnitude.exists_getLast?`), and no digit is a suffix letter
(`IsDigit.ofChar?_eq_none`); an octal digit is no radix mark (`IsDigit.not_mark`).
-/

namespace GroovyLowering.Literal

/-! ## The grammar -/

/-- A digit of a radix with its value.  A letter may have either case. -/
def IsDigit (radix : Nat) (c : Char) (value : Nat) : Prop :=
  value < radix ∧
    ("0123456789abcdef".toList[value]? = some c ∨ "0123456789ABCDEF".toList[value]? = some c)

instance (radix : Nat) (c : Char) (value : Nat) : Decidable (IsDigit radix c value) :=
  inferInstanceAs (Decidable (_ ∧ _))

/-- A run of at least one digit with its value: a digit counts as often as there are numbers with
as many digits as stand behind it. -/
inductive Digits (radix : Nat) : List Char → Nat → Prop where
  | last {c : Char} {d : Nat} (h : IsDigit radix c d) : Digits radix [c] d
  | more {c : Char} {d : Nat} {cs : List Char} {value : Nat} (h : IsDigit radix c d)
      (hrest : Digits radix cs value) : Digits radix (c :: cs) (d * radix ^ cs.length + value)

/-- A magnitude with its value, in one of the four radixes. -/
inductive Magnitude : List Char → Nat → Prop where
  | hexadecimal {mark : Char} {cs : List Char} {value : Nat} (hmark : mark = 'x' ∨ mark = 'X')
      (h : Digits 16 cs value) : Magnitude ('0' :: mark :: cs) value
  | binary {mark : Char} {cs : List Char} {value : Nat} (hmark : mark = 'b' ∨ mark = 'B')
      (h : Digits 2 cs value) : Magnitude ('0' :: mark :: cs) value
  | octal {cs : List Char} {value : Nat} (h : Digits 8 cs value) : Magnitude ('0' :: cs) value
  | zero : Magnitude ['0'] 0
  | decimal {c : Char} {cs : List Char} {value : Nat} (hfirst : c ≠ '0')
      (h : Digits 10 (c :: cs) value) : Magnitude (c :: cs) value

/-- A suffix letter with the type that it asks for, or no letter. -/
inductive SuffixLetter : List Char → Option IntegerSuffix → Prop where
  | integer {c : Char} (h : c = 'i' ∨ c = 'I') : SuffixLetter [c] (some .integer)
  | long {c : Char} (h : c = 'l' ∨ c = 'L') : SuffixLetter [c] (some .long)
  | big {c : Char} (h : c = 'g' ∨ c = 'G') : SuffixLetter [c] (some .big)
  | none : SuffixLetter [] none

/-- An integer literal without underscores, with its value and the type it asks for. -/
inductive IsInteger : List Char → Int → Option IntegerSuffix → Prop where
  | positive {cs letter : List Char} {value : Nat} {suffix : Option IntegerSuffix}
      (h : Magnitude cs value) (hletter : SuffixLetter letter suffix) :
      IsInteger (cs ++ letter) value suffix
  | negative {cs letter : List Char} {value : Nat} {suffix : Option IntegerSuffix}
      (h : Magnitude cs value) (hletter : SuffixLetter letter suffix) :
      IsInteger ('-' :: (cs ++ letter)) (-value) suffix

/-- What a literal with a value and a suffix is read as. -/
inductive ReadAs (text : String) (value : Int) :
    Option IntegerSuffix → Except NumberError Number → Prop where
  | big : ReadAs text value (some .big) (.ok (.bigInteger value))
  | integer {v : Int32} (h : v.toInt = value) : ReadAs text value (some .integer) (.ok (.integer v))
  | noInteger (h : ∀ v : Int32, v.toInt ≠ value) :
      ReadAs text value (some .integer) (.error (.outOfRange text))
  | long {v : Int64} (h : v.toInt = value) : ReadAs text value (some .long) (.ok (.long v))
  | noLong (h : ∀ v : Int64, v.toInt ≠ value) :
      ReadAs text value (some .long) (.error (.outOfRange text))
  | narrow {v : Int32} (h : v.toInt = value) : ReadAs text value none (.ok (.integer v))
  | middle {v : Int64} (hnarrow : ∀ v : Int32, v.toInt ≠ value) (h : v.toInt = value) :
      ReadAs text value none (.ok (.long v))
  | wide (h : ∀ v : Int64, v.toInt ≠ value) : ReadAs text value none (.ok (.bigInteger value))

/-! ## Digits -/

theorem exists_eq_ofNat {first last c : Char} (hfirst : first ≤ c) (hlast : c ≤ last) :
    ∃ k ≤ last.toNat - first.toNat, c = Char.ofNat (first.toNat + k) := by
  have hlow : first.toNat ≤ c.toNat := hfirst
  have hhigh : c.toNat ≤ last.toNat := hlast
  refine ⟨c.toNat - first.toNat, by omega, ?_⟩
  rw [Nat.add_sub_cancel' hlow, Char.ofNat_toNat]

theorem hexValue?_eq_some_iff {c : Char} {d : Nat} : hexValue? c = some d ↔ IsDigit 16 c d := by
  constructor
  · intro h
    rw [hexValue?] at h
    split_ifs at h with hdigit hsmall hlarge
    · obtain ⟨k, hk, rfl⟩ := exists_eq_ofNat hdigit.1 hdigit.2
      cases h
      replace hk : k ≤ 9 := hk
      interval_cases k <;> decide
    · obtain ⟨k, hk, rfl⟩ := exists_eq_ofNat hsmall.1 hsmall.2
      cases h
      replace hk : k ≤ 5 := hk
      interval_cases k <;> decide
    · obtain ⟨k, hk, rfl⟩ := exists_eq_ofNat hlarge.1 hlarge.2
      cases h
      replace hk : k ≤ 5 := hk
      interval_cases k <;> decide
  · rintro ⟨hd, h⟩
    interval_cases d <;> rcases h with h | h <;> cases h <;> rfl

theorem IsDigit.mono {radix : Nat} {c : Char} {d : Nat} (h : IsDigit radix c d)
    (hradix : radix ≤ 16) : IsDigit 16 c d :=
  ⟨Nat.lt_of_lt_of_le h.1 hradix, h.2⟩

section

variable {radix : Nat} (hradix : radix ≤ 16) {c : Char} {cs : List Char} {d value : Nat}

include hradix

theorem digitValue?_eq_some_iff : digitValue? radix c = some d ↔ IsDigit radix c d := by
  rw [digitValue?, Option.filter_eq_some_iff, hexValue?_eq_some_iff, decide_eq_true_eq]
  constructor
  · rintro ⟨hdigit, hd⟩
    exact ⟨hd, hdigit.2⟩
  · intro h
    exact ⟨h.mono hradix, h.1⟩

theorem isDigitOf_iff : isDigitOf radix c = true ↔ ∃ d, IsDigit radix c d := by
  rw [isDigitOf, Option.isSome_iff_exists]
  simp only [digitValue?_eq_some_iff hradix]

/-- Reading digits from left to right adds up what each of them counts. -/
theorem Digits.foldl_eq (h : Digits radix cs value) (start : Nat) :
    cs.foldl (fun value c => value * radix + (digitValue? radix c).getD 0) start =
      start * radix ^ cs.length + value := by
  induction h generalizing start with
  | last h =>
    rw [List.foldl_cons, List.foldl_nil, (digitValue?_eq_some_iff hradix).2 h, Option.getD_some,
      List.length_singleton, pow_one]
  | more h _ ih =>
    rw [List.foldl_cons, (digitValue?_eq_some_iff hradix).2 h, Option.getD_some, ih,
      List.length_cons]
    ring

theorem Digits.digitsValue_eq (h : Digits radix cs value) : digitsValue radix cs = value := by
  rw [digitsValue, h.foldl_eq hradix, Nat.zero_mul, Nat.zero_add]

theorem Digits.all_isDigitOf (h : Digits radix cs value) : cs.all (isDigitOf radix) = true := by
  induction h with
  | last h => simpa using (isDigitOf_iff hradix).2 ⟨_, h⟩
  | more h _ ih =>
    rw [List.all_cons, Bool.and_eq_true]
    exact ⟨(isDigitOf_iff hradix).2 ⟨_, h⟩, ih⟩

theorem exists_digits (hne : cs ≠ []) (h : cs.all (isDigitOf radix) = true) :
    ∃ value, Digits radix cs value := by
  induction cs with
  | nil => exact absurd rfl hne
  | cons c cs ih =>
    rw [List.all_cons, Bool.and_eq_true] at h
    obtain ⟨d, hd⟩ := (isDigitOf_iff hradix).1 h.1
    cases cs with
    | nil => exact ⟨d, .last hd⟩
    | cons c' cs =>
      obtain ⟨value, hrest⟩ := ih (List.cons_ne_nil _ _) h.2
      exact ⟨_, .more hd hrest⟩

end

theorem Digits.ne_nil {radix : Nat} {cs : List Char} {value : Nat} (h : Digits radix cs value) :
    cs ≠ [] := by
  cases h <;> exact List.cons_ne_nil _ _

theorem Digits.exists_cons {radix : Nat} {cs : List Char} {value : Nat}
    (h : Digits radix cs value) : ∃ c rest d, cs = c :: rest ∧ IsDigit radix c d := by
  cases h with
  | last h => exact ⟨_, _, _, rfl, h⟩
  | more h _ => exact ⟨_, _, _, rfl, h⟩

theorem Digits.exists_getLast? {radix : Nat} {cs : List Char} {value : Nat}
    (h : Digits radix cs value) (hradix : radix ≤ 16) (front : List Char) :
    ∃ c d, (front ++ cs).getLast? = some c ∧ IsDigit 16 c d := by
  induction h generalizing front with
  | last h => exact ⟨_, _, List.getLast?_concat, h.mono hradix⟩
  | more h hrest ih =>
    rw [List.append_cons]
    exact ih _

/-! ## Magnitudes -/

theorem magnitude?_eq_some_iff_digits {cs digits : List Char} {radix value : Nat}
    (hsplit : splitRadix cs = (radix, digits)) (hradix : radix ≤ 16) :
    magnitude? cs = some value ↔ Digits radix digits value := by
  simp only [magnitude?, hsplit]
  constructor
  · intro h
    split_ifs at h with hbad
    rw [Bool.or_eq_true, not_or, Bool.not_eq_true', Bool.not_eq_false,
      List.isEmpty_iff] at hbad
    obtain ⟨v, hv⟩ := exists_digits hradix hbad.1 hbad.2
    cases h
    rwa [hv.digitsValue_eq hradix]
  · intro h
    have hempty : digits.isEmpty = false := List.isEmpty_eq_false_iff.2 h.ne_nil
    simp [hempty, h.all_isDigitOf hradix, h.digitsValue_eq hradix]

theorem IsDigit.not_mark {c : Char} {d : Nat} (h : IsDigit 8 c d) :
    c ≠ 'x' ∧ c ≠ 'X' ∧ c ≠ 'b' ∧ c ≠ 'B' := by
  obtain ⟨hd, h⟩ := h
  interval_cases d <;> rcases h with h | h <;> cases h <;> decide

theorem IsDigit.ofChar?_eq_none {c : Char} {d : Nat} (h : IsDigit 16 c d) :
    IntegerSuffix.ofChar? c = none := by
  obtain ⟨hd, h⟩ := h
  interval_cases d <;> rcases h with h | h <;> cases h <;> rfl

theorem IsDigit.ne_minus {c : Char} {d : Nat} (h : IsDigit 16 c d) : c ≠ '-' := by
  obtain ⟨hd, h⟩ := h
  interval_cases d <;> rcases h with h | h <;> cases h <;> decide

theorem Magnitude.magnitude?_eq {cs : List Char} {value : Nat} (h : Magnitude cs value) :
    magnitude? cs = some value := by
  cases h with
  | hexadecimal hmark h =>
    refine (magnitude?_eq_some_iff_digits ?_ (by decide)).2 h
    rcases hmark with rfl | rfl <;> rfl
  | binary hmark h =>
    refine (magnitude?_eq_some_iff_digits ?_ (by decide)).2 h
    rcases hmark with rfl | rfl <;> rfl
  | octal h =>
    obtain ⟨c, rest, d, rfl, hc⟩ := h.exists_cons
    obtain ⟨hx, hX, hb, hB⟩ := hc.not_mark
    refine (magnitude?_eq_some_iff_digits ?_ (by decide)).2 h
    simp [splitRadix]
  | zero => rfl
  | decimal hfirst h =>
    refine (magnitude?_eq_some_iff_digits ?_ (by decide)).2 h
    simp [splitRadix, hfirst]

theorem magnitude_of_eq {cs : List Char} {value : Nat} (h : magnitude? cs = some value) :
    Magnitude cs value := by
  have hdigits : ∀ radix digits, splitRadix cs = (radix, digits) → radix ≤ 16 →
      Digits radix digits value :=
    fun _ _ hsplit hradix => (magnitude?_eq_some_iff_digits hsplit hradix).1 h
  have hsplit := splitRadix.eq_def cs
  split at hsplit
  · exact .hexadecimal (Or.inl rfl) (hdigits _ _ hsplit (by decide))
  · exact .hexadecimal (Or.inr rfl) (hdigits _ _ hsplit (by decide))
  · exact .binary (Or.inl rfl) (hdigits _ _ hsplit (by decide))
  · exact .binary (Or.inr rfl) (hdigits _ _ hsplit (by decide))
  · exact .octal (hdigits _ _ hsplit (by decide))
  · next hnot =>
    have hdecimal := hdigits _ _ hsplit (by decide)
    obtain ⟨c, rest, d, rfl, hc⟩ := hdecimal.exists_cons
    by_cases hzero : c = '0'
    · subst hzero
      cases rest with
      | nil =>
        cases h
        exact .zero
      | cons d rest => exact absurd rfl (hnot d rest)
    · exact .decimal hzero hdecimal

theorem magnitude?_eq_some_iff {cs : List Char} {value : Nat} :
    magnitude? cs = some value ↔ Magnitude cs value :=
  ⟨magnitude_of_eq, Magnitude.magnitude?_eq⟩

theorem Magnitude.exists_cons {cs : List Char} {value : Nat} (h : Magnitude cs value) :
    ∃ c rest d, cs = c :: rest ∧ IsDigit 16 c d := by
  cases h with
  | hexadecimal _ _ => exact ⟨_, _, 0, rfl, by decide⟩
  | binary _ _ => exact ⟨_, _, 0, rfl, by decide⟩
  | octal _ => exact ⟨_, _, 0, rfl, by decide⟩
  | zero => exact ⟨_, _, 0, rfl, by decide⟩
  | decimal _ h =>
    obtain ⟨c, rest, d, hcons, hc⟩ := h.exists_cons
    exact ⟨c, rest, d, hcons, hc.mono (by decide)⟩

theorem Magnitude.exists_getLast? {cs : List Char} {value : Nat} (h : Magnitude cs value) :
    ∃ c d, cs.getLast? = some c ∧ IsDigit 16 c d := by
  cases h with
  | hexadecimal _ h => exact h.exists_getLast? (by decide) ['0', _]
  | binary _ h => exact h.exists_getLast? (by decide) ['0', _]
  | octal h => exact h.exists_getLast? (by decide) ['0']
  | zero => exact ⟨'0', 0, rfl, by decide⟩
  | decimal _ h => exact h.exists_getLast? (by decide) []

/-! ## Signs and suffixes -/

theorem SuffixLetter.splitSuffix_eq {cs letter : List Char} {value : Nat}
    {suffix : Option IntegerSuffix} (hletter : SuffixLetter letter suffix)
    (h : Magnitude cs value) :
    splitSuffix IntegerSuffix.ofChar? (cs ++ letter) = (cs, suffix) := by
  have hone : ∀ {c : Char} {s : IntegerSuffix}, IntegerSuffix.ofChar? c = some s →
      splitSuffix IntegerSuffix.ofChar? (cs ++ [c]) = (cs, some s) := by
    intro c s hc
    simp [splitSuffix, hc]
  cases hletter with
  | integer hc => rcases hc with rfl | rfl <;> exact hone rfl
  | long hc => rcases hc with rfl | rfl <;> exact hone rfl
  | big hc => rcases hc with rfl | rfl <;> exact hone rfl
  | none =>
    obtain ⟨c, d, hlast, hc⟩ := h.exists_getLast?
    simp [splitSuffix, hlast, hc.ofChar?_eq_none]

theorem suffixLetter_of_ofChar? {c : Char} {suffix : IntegerSuffix}
    (h : IntegerSuffix.ofChar? c = some suffix) : SuffixLetter [c] (some suffix) := by
  rw [IntegerSuffix.ofChar?.eq_def] at h
  split at h
  · cases h
    exact .integer (Or.inl rfl)
  · cases h
    exact .integer (Or.inr rfl)
  · cases h
    exact .long (Or.inl rfl)
  · cases h
    exact .long (Or.inr rfl)
  · cases h
    exact .big (Or.inl rfl)
  · cases h
    exact .big (Or.inr rfl)
  · cases h

theorem exists_splitSuffix (cs : List Char) :
    ∃ letter, cs = (splitSuffix IntegerSuffix.ofChar? cs).1 ++ letter ∧
      SuffixLetter letter (splitSuffix IntegerSuffix.ofChar? cs).2 := by
  rcases splitSuffix_cases IntegerSuffix.ofChar? cs with
    hsplit | ⟨body, c, suffix, hcs, hsuffix, hsplit⟩
  · rw [hsplit]
    exact ⟨[], (List.append_nil _).symm, .none⟩
  · rw [hsplit]
    exact ⟨[c], hcs, suffixLetter_of_ofChar? hsuffix⟩

theorem splitMinus_of_ne {c : Char} (h : c ≠ '-') (cs : List Char) :
    splitMinus (c :: cs) = (false, c :: cs) := by
  simp [splitMinus, h]

/-- The integer of a sign and a magnitude. -/
def signed (negative : Bool) (magnitude : Nat) : Int := if negative then -magnitude else magnitude

theorem isInteger_iff {cs : List Char} {value : Int} {suffix : Option IntegerSuffix} :
    IsInteger cs value suffix ↔
      ∃ magnitude, magnitude? (splitSuffix IntegerSuffix.ofChar? (splitMinus cs).2).1 =
          some magnitude ∧
        (splitSuffix IntegerSuffix.ofChar? (splitMinus cs).2).2 = suffix ∧
        signed (splitMinus cs).1 magnitude = value := by
  constructor
  · rintro (⟨h, hletter⟩ | ⟨h, hletter⟩)
    · next cs letter magnitude =>
      have hminus : splitMinus (cs ++ letter) = (false, cs ++ letter) := by
        obtain ⟨c, rest, d, rfl, hc⟩ := h.exists_cons
        exact splitMinus_of_ne hc.ne_minus _
      rw [hminus, hletter.splitSuffix_eq h]
      exact ⟨magnitude, magnitude?_eq_some_iff.2 h, rfl, rfl⟩
    · next cs letter magnitude =>
      have hminus : splitMinus ('-' :: (cs ++ letter)) = (true, cs ++ letter) := rfl
      rw [hminus, hletter.splitSuffix_eq h]
      exact ⟨magnitude, magnitude?_eq_some_iff.2 h, rfl, rfl⟩
  · rintro ⟨magnitude, hmagnitude, rfl, rfl⟩
    have h := magnitude?_eq_some_iff.1 hmagnitude
    obtain ⟨letter, hbody, hletter⟩ := exists_splitSuffix (splitMinus cs).2
    have hsplit := splitMinus.eq_def cs
    split at hsplit
    · next rest =>
      rw [hsplit] at h hbody hletter ⊢
      have hlit := IsInteger.negative h hletter
      rw [← hbody] at hlit
      exact hlit
    · rw [hsplit] at h hbody hletter ⊢
      have hlit := IsInteger.positive h hletter
      rw [← hbody] at hlit
      exact hlit

/-! ## Types -/

theorem toInteger?_cases (value : Int) :
    (∃ v : Int32, v.toInt = value ∧ Number.toInteger? value = some (.integer v)) ∨
      (∀ v : Int32, v.toInt ≠ value) ∧ Number.toInteger? value = none := by
  rw [Number.toInteger?]
  split
  · next hrange =>
    exact Or.inl ⟨_, Int32.toInt_ofInt_of_le hrange.1 (Int.lt_of_le_sub_one hrange.2), rfl⟩
  · next hrange =>
    refine Or.inr ⟨?_, rfl⟩
    rintro v rfl
    exact hrange ⟨v.minValue_le_toInt, v.toInt_le⟩

theorem toLong?_cases (value : Int) :
    (∃ v : Int64, v.toInt = value ∧ Number.toLong? value = some (.long v)) ∨
      (∀ v : Int64, v.toInt ≠ value) ∧ Number.toLong? value = none := by
  rw [Number.toLong?]
  split
  · next hrange =>
    exact Or.inl ⟨_, Int64.toInt_ofInt_of_le hrange.1 (Int.lt_of_le_sub_one hrange.2), rfl⟩
  · next hrange =>
    refine Or.inr ⟨?_, rfl⟩
    rintro v rfl
    exact hrange ⟨v.minValue_le_toInt, v.toInt_le⟩

/-- What is made of a value whose type is known. -/
def ofValue (text : String) (value : Int) (suffix : Option IntegerSuffix) :
    Except NumberError Number :=
  match Number.ofSuffix? value suffix with
  | none => .error (.outOfRange text)
  | some number => .ok number

theorem readAs_ofValue (text : String) (value : Int) (suffix : Option IntegerSuffix) :
    ReadAs text value suffix (ofValue text value suffix) := by
  rcases suffix with _ | _ | _ | _
  · rcases toInteger?_cases value with ⟨v, hv, hnarrow⟩ | ⟨hnone, hnarrow⟩
    · simp only [ofValue, Number.ofSuffix?, Number.narrowest, hnarrow]
      exact .narrow hv
    · rcases toLong?_cases value with ⟨v, hv, hmiddle⟩ | ⟨hnolong, hmiddle⟩
      · simp only [ofValue, Number.ofSuffix?, Number.narrowest, hnarrow, hmiddle]
        exact .middle hnone hv
      · simp only [ofValue, Number.ofSuffix?, Number.narrowest, hnarrow, hmiddle]
        exact .wide hnolong
  · rcases toInteger?_cases value with ⟨v, hv, hinteger⟩ | ⟨hnone, hinteger⟩
    · simp only [ofValue, Number.ofSuffix?, hinteger]
      exact .integer hv
    · simp only [ofValue, Number.ofSuffix?, hinteger]
      exact .noInteger hnone
  · rcases toLong?_cases value with ⟨v, hv, hlong⟩ | ⟨hnone, hlong⟩
    · simp only [ofValue, Number.ofSuffix?, hlong]
      exact .long hv
    · simp only [ofValue, Number.ofSuffix?, hlong]
      exact .noLong hnone
  · exact .big

theorem readInteger_of_isInteger {text : String} {value : Int} {suffix : Option IntegerSuffix}
    (h : IsInteger (withoutUnderscores text.toList) value suffix) :
    readInteger text = ofValue text value suffix := by
  obtain ⟨magnitude, hmagnitude, rfl, rfl⟩ := isInteger_iff.1 h
  simp only [readInteger, hmagnitude]
  rfl

theorem readInteger_of_not_isInteger {text : String}
    (h : ∀ value suffix, ¬IsInteger (withoutUnderscores text.toList) value suffix) :
    readInteger text = .error (.malformed text) := by
  rw [readInteger]
  dsimp only
  split
  · rfl
  · next magnitude hmagnitude =>
    exact absurd (isInteger_iff.2 ⟨magnitude, hmagnitude, rfl, rfl⟩) (h _ _)

/-- **Integer literals.**  A text is malformed exactly when it is no integer literal of the grammar
without its underscores.  Otherwise it is read as the value of its digits, of the type that its
suffix asks for, or out of the range of that type; without a suffix it is of the narrowest type. -/
theorem readInteger_grammar (text : String) :
    ((∃ value suffix, IsInteger (withoutUnderscores text.toList) value suffix) ↔
        ∀ t, readInteger text ≠ .error (.malformed t)) ∧
      ∀ value suffix, IsInteger (withoutUnderscores text.toList) value suffix →
        ReadAs text value suffix (readInteger text) := by
  have hread : ∀ value suffix, IsInteger (withoutUnderscores text.toList) value suffix →
      ReadAs text value suffix (readInteger text) := by
    intro value suffix h
    rw [readInteger_of_isInteger h]
    exact readAs_ofValue text value suffix
  refine ⟨⟨?_, ?_⟩, hread⟩
  · rintro ⟨value, suffix, h⟩ t hmalformed
    have := hread value suffix h
    rw [hmalformed] at this
    cases this
  · intro h
    by_contra hnone
    refine h text (readInteger_of_not_isInteger ?_)
    intro value suffix hlit
    exact hnone ⟨value, suffix, hlit⟩

end GroovyLowering.Literal
