import GroovyLowering.Literal.Integer

/-!
# Reading a number back from its decimal digits

`Nat.toDigits 10` writes a number without a leading zero.  Such a text has no sign, no underscore,
no radix mark and no suffix letter, so every step in front of the digits leaves it as it is
(`splitMinus_toDigits`, `splitSuffix_toDigits`, `splitRadix_toDigits`).  The digits have the value
of the number (`digitsValue_toDigits`).

An integer takes the narrowest type that holds it.  Its text is the text of its value whichever
type that is (`Number.text_narrowest`), so a number is written as it was read (`readInteger_repr`).
-/

namespace GroovyLowering.Literal

/-! ## Digits -/

theorem digitValue?_of_isDigit {c : Char} (h : c.isDigit) :
    digitValue? 10 c = some (c.toNat - '0'.toNat) := by
  have hrange : '0' ≤ c ∧ c ≤ '9' := by
    rw [Char.isDigit, Bool.and_eq_true, decide_eq_true_eq, decide_eq_true_eq] at h
    exact h
  have hlt : c.toNat - '0'.toNat < 10 := by
    have hle : c.toNat ≤ '9'.toNat := hrange.2
    have hnine : '9'.toNat = '0'.toNat + 9 := rfl
    omega
  rw [digitValue?, hexValue?, if_pos hrange, Option.filter_some, if_pos (decide_eq_true hlt)]

theorem isDigitOf_of_isDigit {c : Char} (h : c.isDigit) : isDigitOf 10 c = true := by
  rw [isDigitOf, digitValue?_of_isDigit h, Option.isSome_some]

/-- On digits the value is the one that the standard library computes. -/
theorem foldl_digitValue?_eq_ofDigitChars {cs : List Char} (h : ∀ c ∈ cs, c.isDigit) (start : Nat) :
    cs.foldl (fun value c => value * 10 + (digitValue? 10 c).getD 0) start =
      Nat.ofDigitChars 10 cs start := by
  induction cs generalizing start with
  | nil => rw [List.foldl_nil, Nat.ofDigitChars_nil]
  | cons c cs ih =>
    have hc := digitValue?_of_isDigit (h c List.mem_cons_self)
    have hcs := ih (fun d hd => h d (List.mem_cons_of_mem _ hd))
      (start * 10 + (c.toNat - '0'.toNat))
    rw [List.foldl_cons, Nat.ofDigitChars_cons, hc, Option.getD_some, hcs, Nat.mul_comm start 10]

theorem isDigit_of_mem_toDigits {n : Nat} {c : Char} (h : c ∈ Nat.toDigits 10 n) : c.isDigit :=
  Nat.isDigit_of_mem_toDigits (by decide) (by decide) h

theorem digitsValue_toDigits (n : Nat) : digitsValue 10 (Nat.toDigits 10 n) = n := by
  rw [digitsValue, foldl_digitValue?_eq_ofDigitChars fun _ hc => isDigit_of_mem_toDigits hc,
    Nat.ofDigitChars_ten_toDigits]

/-- Only zero is written with a zero in front. -/
theorem eq_zero_of_toDigits_eq_cons {n : Nat} {rest : List Char}
    (h : Nat.toDigits 10 n = '0' :: rest) : n = 0 := by
  induction n using Nat.strongRecOn generalizing rest with
  | _ n ih =>
    by_cases hlt : n < 10
    · have hchar : n.digitChar = '0' := by
        rw [Nat.toDigits_of_lt_base hlt] at h
        exact (List.cons.inj h).1
      have hvalue := Nat.toNat_digitChar_sub_48_of_lt_ten hlt
      rw [hchar] at hvalue
      exact hvalue.symm
    · have hsplit := Nat.toDigits_of_base_le (show 1 < 10 by decide) (Nat.le_of_not_lt hlt)
      have hne : Nat.toDigits 10 (n / 10) ≠ [] := Nat.toDigits_ne_nil
      obtain ⟨c, front, hfront⟩ := List.exists_cons_of_ne_nil hne
      rw [hsplit, hfront, List.cons_append] at h
      obtain ⟨rfl, _⟩ := List.cons.inj h
      have hzero := ih (n / 10) (by omega) hfront
      omega

/-! ## The parts of a literal -/

section

variable (n : Nat)

theorem withoutUnderscores_toDigits :
    withoutUnderscores (Nat.toDigits 10 n) = Nat.toDigits 10 n := by
  refine List.filter_eq_self.2 fun c hc => ?_
  have hdigit := isDigit_of_mem_toDigits hc
  rw [bne_iff_ne]
  rintro rfl
  exact absurd hdigit (by decide)

theorem splitMinus_toDigits : splitMinus (Nat.toDigits 10 n) = (false, Nat.toDigits 10 n) := by
  rw [splitMinus.eq_def]
  split
  · next rest hrest =>
    have hdigit := isDigit_of_mem_toDigits (hrest ▸ List.mem_cons_self)
    exact absurd hdigit (by decide)
  · rfl

theorem IntegerSuffix.ofChar?_of_isDigit {c : Char} (h : c.isDigit) : ofChar? c = none := by
  rw [ofChar?.eq_def]
  split
  all_goals first
    | exact absurd h (by decide)
    | rfl

/-- A text without suffix letters is left as it is. -/
theorem splitSuffix_eq_self {α : Type} {ofChar? : Char → Option α} {cs : List Char}
    (h : ∀ c ∈ cs, ofChar? c = none) : splitSuffix ofChar? cs = (cs, none) := by
  rw [splitSuffix]
  split
  · rfl
  · next c hlast => rw [h c (List.mem_of_getLast? hlast)]

theorem splitSuffix_cases {α : Type} (ofChar? : Char → Option α) (cs : List Char) :
    splitSuffix ofChar? cs = (cs, none) ∨
      ∃ body c suffix, cs = body ++ [c] ∧ ofChar? c = some suffix ∧
        splitSuffix ofChar? cs = (body, some suffix) := by
  rw [splitSuffix]
  split
  · exact Or.inl rfl
  · next c hlast =>
    obtain ⟨body, rfl⟩ := List.getLast?_eq_some_iff.1 hlast
    split
    · next suffix hsuffix =>
      exact Or.inr ⟨body, c, suffix, rfl, hsuffix, by rw [List.dropLast_concat]⟩
    · exact Or.inl rfl

theorem splitSuffix_toDigits :
    splitSuffix IntegerSuffix.ofChar? (Nat.toDigits 10 n) = (Nat.toDigits 10 n, none) :=
  splitSuffix_eq_self fun _ hc => IntegerSuffix.ofChar?_of_isDigit (isDigit_of_mem_toDigits hc)

theorem splitRadix_toDigits : splitRadix (Nat.toDigits 10 n) = (10, Nat.toDigits 10 n) := by
  by_cases hzero : n = 0
  · subst hzero
    rfl
  · have hhead : ∀ rest, Nat.toDigits 10 n ≠ '0' :: rest :=
      fun rest h => hzero (eq_zero_of_toDigits_eq_cons h)
    rw [splitRadix.eq_def]
    split
    all_goals first
      | rfl
      | exact absurd ‹_› (hhead _)

theorem magnitude?_toDigits : magnitude? (Nat.toDigits 10 n) = some n := by
  have hempty : (Nat.toDigits 10 n).isEmpty = false :=
    List.isEmpty_eq_false_iff.2 Nat.toDigits_ne_nil
  have hall : (Nat.toDigits 10 n).all (isDigitOf 10) = true :=
    List.all_eq_true.2 fun c hc => isDigitOf_of_isDigit (isDigit_of_mem_toDigits hc)
  simp [magnitude?, splitRadix_toDigits, hempty, hall, digitsValue_toDigits]

end

/-! ## The narrowest type -/

namespace Number

theorem text_of_toInteger? {value : Int} {number : Number} (h : toInteger? value = some number) :
    number.text = toString value := by
  rw [toInteger?] at h
  split at h
  · next hrange =>
    cases h
    have hvalue : (Int32.ofInt value).toInt = value :=
      Int32.toInt_ofInt_of_le hrange.1 (Int.lt_of_le_sub_one hrange.2)
    rw [text, hvalue]
  · cases h

theorem text_of_toLong? {value : Int} {number : Number} (h : toLong? value = some number) :
    number.text = toString value := by
  rw [toLong?] at h
  split at h
  · next hrange =>
    cases h
    have hvalue : (Int64.ofInt value).toInt = value :=
      Int64.toInt_ofInt_of_le hrange.1 (Int.lt_of_le_sub_one hrange.2)
    rw [text, hvalue]
  · cases h

/-- The type that an integer takes does not show in its text. -/
theorem text_narrowest (value : Int) : (narrowest value).text = toString value := by
  rw [narrowest]
  split
  · exact text_of_toInteger? ‹_›
  · split
    · exact text_of_toLong? ‹_›
    · rfl

end Number

/-! ## Reading -/

/-- A number is written as it was read. -/
theorem readInteger_repr (n : Nat) :
    ∃ number, readInteger n.repr = .ok number ∧ number.text = n.repr := by
  refine ⟨Number.narrowest n, ?_, Number.text_narrowest n⟩
  simp [readInteger, withoutUnderscores_toDigits, splitMinus_toDigits, splitSuffix_toDigits,
    magnitude?_toDigits, Number.ofSuffix?]

end GroovyLowering.Literal
