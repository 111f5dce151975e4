import GroovyLowering.Proofs.Literal.Minus
import Mathlib.Algebra.Field.Rat
import Mathlib.Data.List.TakeWhile
import Mathlib.Data.List.TakeDrop

/-!
# The normal form of a decimal literal

A decimal that is kept exactly is kept as its text, without underscores and suffix, in a normal
form.  `IsDecimal` says which texts are decimals with digits, and what the parts of each of them
are.  The number that a text denotes is a function of its parts (`DecimalParts.value`), and
`Decimal.read?` finds them (`IsDecimal.read?_eq`, `exists_isDecimal`).

The normal form has the same parts (`IsDecimal.normalize`): of the text only the spelling of the two
signs and of the mark in front of the power of ten is changed.  Its characters are those of
`isNormalized`, which is all that a second run needs to know to leave it as it is.
-/

namespace GroovyLowering.Literal

/-! ## The grammar -/

/-- The parts of a decimal text. -/
structure DecimalParts where
  /-- There is a minus sign in front. -/
  negative : Bool
  /-- The digits in front of the point. -/
  whole : List Char
  /-- The digits behind the point. -/
  fraction : List Char
  /-- The value of all these digits together. -/
  coefficient : Nat
  /-- The power of ten behind them. -/
  power : Int

/-- The number that the parts of a decimal make up. -/
def DecimalParts.value (p : DecimalParts) : ℚ :=
  (if p.negative then -1 else 1) * p.coefficient * 10 ^ (p.power - p.fraction.length)

/-- A sign, which may be left out. -/
inductive Sign : List Char → Bool → Prop where
  | absent : Sign [] false
  | plus : Sign ['+'] false
  | minus : Sign ['-'] true

/-- A point with the digits behind it, which may be left out. -/
inductive Fraction : List Char → List Char → Prop where
  | absent : Fraction [] []
  | present (digits : List Char) : Fraction ('.' :: digits) digits

/-- A power of ten, which may be left out. -/
inductive Power : List Char → Int → Prop where
  | absent : Power [] 0
  | present {mark : Char} {sign cs : List Char} {negative : Bool} {value : Nat}
      (hmark : mark = 'e' ∨ mark = 'E') (hsign : Sign sign negative) (h : Digits 10 cs value) :
      Power (mark :: (sign ++ cs)) (signed negative value)

/-- A decimal text with its parts.  There is a digit in front of the point or behind it. -/
inductive IsDecimal : List Char → DecimalParts → Prop where
  | mk {sign whole point fraction exponent : List Char} {negative : Bool} {coefficient : Nat}
      {power : Int} (hsign : Sign sign negative) (hfraction : Fraction point fraction)
      (hdigits : Digits 10 (whole ++ fraction) coefficient) (hpower : Power exponent power) :
      IsDecimal (sign ++ (whole ++ point ++ exponent))
        ⟨negative, whole, fraction, coefficient, power⟩

/-- A text denotes a number. -/
def Denotes (cs : List Char) (q : ℚ) : Prop := ∃ p, IsDecimal cs p ∧ p.value = q

/-- The letter that asks for an exact decimal, which may be left out. -/
def IsExactLetter (letter : List Char) : Prop := letter = [] ∨ letter = ['g'] ∨ letter = ['G']

/-! ## Digits -/

theorem IsDigit.isDigit {c : Char} {d : Nat} (h : IsDigit 10 c d) : c.isDigit = true := by
  obtain ⟨hd, h⟩ := h
  interval_cases d <;> rcases h with h | h <;> cases h <;> rfl

theorem Digits.isDigit {cs : List Char} {value : Nat} (h : Digits 10 cs value) :
    ∀ c ∈ cs, c.isDigit = true := by
  induction h with
  | last h =>
    rintro c (_ | ⟨_, ⟨⟩⟩)
    exact h.isDigit
  | more h _ ih =>
    rintro c (_ | ⟨_, hc⟩)
    · exact h.isDigit
    · exact ih c hc

theorem exists_digits_of_isDigit {cs : List Char} (hne : cs ≠ []) (h : ∀ c ∈ cs, c.isDigit = true) :
    ∃ value, Digits 10 cs value :=
  exists_digits (by decide) hne (List.all_eq_true.2 fun c hc => isDigitOf_of_isDigit (h c hc))

namespace Decimal

theorem spanDigits_eq (cs : List Char) :
    spanDigits cs = (cs.takeWhile Char.isDigit, cs.dropWhile Char.isDigit) :=
  List.span_eq_takeWhile_dropWhile _ cs

theorem spanDigits_append {front back : List Char} (hfront : ∀ c ∈ front, c.isDigit = true)
    (hback : ∀ c ∈ back.head?, c.isDigit = false) : spanDigits (front ++ back) = (front, back) := by
  rw [spanDigits_eq, List.takeWhile_append_of_pos hfront, List.dropWhile_append_of_pos hfront]
  cases back with
  | nil => simp
  | cons c back => simp [hback c rfl]

theorem spanDigits_flatten (cs : List Char) : cs = (spanDigits cs).1 ++ (spanDigits cs).2 := by
  rw [spanDigits_eq, List.takeWhile_append_dropWhile]

theorem isDigit_of_mem_spanDigits {cs : List Char} :
    ∀ c ∈ (spanDigits cs).1, c.isDigit = true := by
  rw [spanDigits_eq]
  exact fun c hc => List.mem_takeWhile_imp hc

end Decimal

/-! ## Reading the parts -/

open Decimal

/-- A sign stands in front of a digit or a point, so it is known where it ends. -/
theorem Sign.splitSign_eq {sign : List Char} {negative : Bool} (h : Sign sign negative) {c : Char}
    (hc : isOpening c = true) (rest : List Char) :
    splitSign (sign ++ c :: rest) = (negative, c :: rest) := by
  have hminus : c ≠ '-' := ne_of_isOpening hc (by decide)
  have hplus : c ≠ '+' := ne_of_isOpening hc (by decide)
  cases h with
  | absent => simp [splitSign, hminus, hplus]
  | plus => rfl
  | minus => rfl

theorem exists_sign (cs : List Char) :
    ∃ sign, Sign sign (splitSign cs).1 ∧ cs = sign ++ (splitSign cs).2 := by
  rw [splitSign.eq_def]
  split
  · exact ⟨['-'], .minus, rfl⟩
  · exact ⟨['+'], .plus, rfl⟩
  · exact ⟨[], .absent, rfl⟩

theorem Sign.not_isDigit {sign : List Char} {negative : Bool} (h : Sign sign negative) :
    ∀ c ∈ sign, ¬c.isDigit = true := by
  cases h with
  | absent => exact List.forall_mem_nil _
  | plus => exact List.forall_mem_singleton.2 (by decide)
  | minus => exact List.forall_mem_singleton.2 (by decide)

theorem isOpening_of_isDigit {c : Char} (h : c.isDigit = true) : isOpening c = true := by
  rw [isOpening, h, Bool.true_or]

theorem Digits.exists_opening {cs : List Char} {value : Nat} (h : Digits 10 cs value) :
    ∃ c rest, cs = c :: rest ∧ isOpening c = true := by
  obtain ⟨c, rest, d, rfl, hc⟩ := h.exists_cons
  exact ⟨c, rest, rfl, isOpening_of_isDigit hc.isDigit⟩

theorem Power.exponent?_eq {cs : List Char} {power : Int} (h : Power cs power) :
    exponent? cs = some power := by
  cases h with
  | absent => rfl
  | present hmark hsign h =>
    have hdigits := List.all_eq_true.2 h.isDigit
    obtain ⟨c, rest, rfl, hc⟩ := h.exists_opening
    rw [exponent?, if_pos hmark, hsign.splitSign_eq hc]
    dsimp only
    rw [List.isEmpty_cons, Bool.false_or, hdigits, h.digitsValue_eq (by decide)]
    rfl

theorem power_of_exponent? {cs : List Char} {power : Int} (h : exponent? cs = some power) :
    Power cs power := by
  cases cs with
  | nil =>
    cases h
    exact .absent
  | cons mark rest =>
    rw [exponent?] at h
    obtain ⟨sign, hsign, hrest⟩ := exists_sign rest
    split at h
    · next hmark =>
      dsimp only at h
      split at h
      · cases h
      · next hdigits =>
        rw [Bool.or_eq_true, not_or, List.isEmpty_iff, Bool.not_eq_true',
          Bool.not_eq_false] at hdigits
        obtain ⟨value, hvalue⟩ := exists_digits_of_isDigit hdigits.1 (List.all_eq_true.1 hdigits.2)
        rw [hvalue.digitsValue_eq (by decide)] at h
        cases h
        have hpower := Power.present hmark hsign hvalue
        rwa [← hrest] at hpower
    · cases h

theorem Power.head_not_isDigit {cs : List Char} {power : Int} (h : Power cs power) :
    ∀ c ∈ cs.head?, c.isDigit = false := by
  cases h with
  | absent => nofun
  | present hmark _ _ =>
    rintro c ⟨⟩
    rcases hmark with rfl | rfl <;> rfl

theorem exists_fraction (cs : List Char) :
    ∃ point, Fraction point (splitFraction cs).1 ∧ cs = point ++ (splitFraction cs).2 ∧
      ∀ c ∈ (splitFraction cs).1, c.isDigit = true := by
  rw [splitFraction.eq_def]
  split
  · next rest =>
    refine ⟨_, .present _, ?_, isDigit_of_mem_spanDigits⟩
    rw [List.cons_append, ← spanDigits_flatten]
  · exact ⟨[], .absent, rfl, nofun⟩

/-- In front of the power of ten stands a digit or a point, and nothing else. -/
theorem Fraction.exists_front {whole point fraction : List Char} {coefficient : Nat}
    (h : Fraction point fraction) (hdigits : Digits 10 (whole ++ fraction) coefficient) :
    ∃ c front, whole ++ point = c :: front ∧ ∀ d ∈ c :: front, isOpening d = true := by
  have hdigit : ∀ c ∈ whole ++ fraction, isOpening c = true :=
    fun c hc => isOpening_of_isDigit (hdigits.isDigit c hc)
  have hfront : whole ++ point ≠ [] ∧ ∀ c ∈ whole ++ point, isOpening c = true := by
    cases h with
    | absent => exact ⟨hdigits.ne_nil, hdigit⟩
    | present =>
      refine ⟨by simp, fun c hc => ?_⟩
      rcases List.mem_append.1 hc with hc | hc
      · exact hdigit c (List.mem_append_left _ hc)
      · rcases List.mem_cons.1 hc with rfl | hc
        · rfl
        · exact hdigit c (List.mem_append_right _ hc)
  obtain ⟨c, front, heq⟩ := List.exists_cons_of_ne_nil hfront.1
  exact ⟨c, front, heq, heq ▸ hfront.2⟩

/-- The digits, the point and the power of ten of a decimal are found. -/
theorem ofDigits?_eq {whole point fraction exponent : List Char} {coefficient : Nat} {power : Int}
    (hfraction : Fraction point fraction) (hdigits : Digits 10 (whole ++ fraction) coefficient)
    (hpower : Power exponent power) (negative : Bool) :
    ofDigits? negative (whole ++ point ++ exponent) =
      some (.finite negative coefficient (power - fraction.length)) := by
  have hwhole : ∀ c ∈ whole, c.isDigit = true :=
    fun c hc => hdigits.isDigit c (List.mem_append_left _ hc)
  have hbehind : ∀ c ∈ fraction, c.isDigit = true :=
    fun c hc => hdigits.isDigit c (List.mem_append_right _ hc)
  have hpoint : ∀ c ∈ (point ++ exponent).head?, c.isDigit = false := by
    cases hfraction with
    | absent => exact hpower.head_not_isDigit
    | present =>
      rintro c ⟨⟩
      rfl
  have hsplit : splitFraction (point ++ exponent) = (fraction, exponent) := by
    cases hfraction with
    | absent =>
      cases hpower with
      | absent => rfl
      | present hmark _ _ => rcases hmark with rfl | rfl <;> rfl
    | present => exact spanDigits_append hbehind hpower.head_not_isDigit
  have hne : (whole.isEmpty && fraction.isEmpty) = false := by
    simpa using hdigits.ne_nil
  rw [ofDigits?, List.append_assoc, spanDigits_append hwhole hpoint]
  dsimp only
  rw [hsplit]
  dsimp only
  rw [hne, hpower.exponent?_eq, hdigits.digitsValue_eq (by decide)]
  rfl

/-- The reader finds the parts of a decimal. -/
theorem IsDecimal.read?_eq {cs : List Char} {p : DecimalParts} (h : IsDecimal cs p) :
    read? cs = some (.finite p.negative p.coefficient (p.power - p.fraction.length)) := by
  obtain @⟨sign, whole, point, fraction, exponent, negative, coefficient, power, hsign, hfraction,
    hdigits, hpower⟩ := h
  obtain ⟨c, front, hfront, hopening⟩ := hfraction.exists_front hdigits
  have hc : isOpening c = true := hopening c List.mem_cons_self
  have hread := ofDigits?_eq hfraction hdigits hpower negative
  rw [hfront, List.cons_append] at hread ⊢
  rw [read?, hsign.splitSign_eq hc]
  dsimp only
  rw [ofWord?_eq_none hc _ List.mem_cons_self, Option.none_or, hread]

/-- What is read and has a digit is a decimal with parts, and no word. -/
theorem exists_isDecimal {cs : List Char} {d : Decimal} (h : read? cs = some d) {c : Char}
    (hc : c ∈ cs) (hdigit : c.isDigit = true) : ∃ p, IsDecimal cs p := by
  obtain ⟨sign, hsign, hcs⟩ := exists_sign cs
  have hbody : c ∈ (splitSign cs).2 := by
    rw [hcs, List.mem_append] at hc
    exact hc.resolve_left fun hc => absurd hdigit (hsign.not_isDigit c hc)
  rw [read?] at h
  dsimp only at h
  rw [ofWord?_eq_none (isOpening_of_isDigit hdigit) _ hbody, Option.none_or, ofDigits?] at h
  dsimp only at h
  split at h
  · cases h
  · next hne =>
    obtain ⟨power, hexponent, -⟩ := Option.map_eq_some_iff.1 h
    obtain ⟨point, hfraction, hrest, hbehind⟩ := exists_fraction (spanDigits (splitSign cs).2).2
    rw [Bool.and_eq_true, List.isEmpty_iff, List.isEmpty_iff, ← List.append_eq_nil_iff] at hne
    obtain ⟨coefficient, hdigits⟩ := exists_digits_of_isDigit hne fun c hc =>
      (List.mem_append.1 hc).elim (isDigit_of_mem_spanDigits c) (hbehind c)
    have hdecimal := IsDecimal.mk hsign hfraction hdigits (power_of_exponent? hexponent)
    rw [List.append_assoc, ← hrest, ← spanDigits_flatten, ← hcs] at hdecimal
    exact ⟨_, hdecimal⟩

/-- A text denotes one number at most. -/
theorem IsDecimal.denotes_iff {cs : List Char} {p : DecimalParts} (h : IsDecimal cs p) (q : ℚ) :
    Denotes cs q ↔ q = p.value := by
  constructor
  · rintro ⟨p', h', rfl⟩
    obtain ⟨hnegative, hcoefficient, hexponent⟩ :=
      Decimal.finite.inj (Option.some.inj (h'.read?_eq.symm.trans h.read?_eq))
    rw [DecimalParts.value, DecimalParts.value, hnegative, hcoefficient, hexponent]
  · rintro rfl
    exact ⟨p, h, rfl⟩

/-! ## The normal form -/

/-- Whether a character may stand in a normal form. -/
def isNormalized (c : Char) : Bool := c.isDigit || c == '-' || c == '.' || c == 'E'

theorem ofChar?_eq_none_of_isNormalized {c : Char} (h : isNormalized c = true) :
    DecimalSuffix.ofChar? c = none := by
  rw [DecimalSuffix.ofChar?.eq_def]
  split
  all_goals first
    | exact absurd h (by decide)
    | rfl

theorem ne_of_isNormalized {c d : Char} (h : isNormalized c = true) (hd : isNormalized d = false) :
    c ≠ d := by
  rintro rfl
  rw [h] at hd
  cases hd

theorem isNormalized_of_isOpening {c : Char} (h : isOpening c = true) : isNormalized c = true := by
  rw [isOpening, Bool.or_eq_true] at h
  rcases h with h | h <;> simp [isNormalized, h]

/-- The sign of a normal form. -/
def normalSign (negative : Bool) : List Char := if negative then ['-'] else []

theorem sign_normalSign (negative : Bool) : Sign (normalSign negative) negative := by
  cases negative
  · exact .absent
  · exact .minus

theorem isNormalized_of_mem_normalSign {negative : Bool} :
    ∀ c ∈ normalSign negative, isNormalized c = true := by
  cases negative with
  | false => exact List.forall_mem_nil _
  | true => exact List.forall_mem_singleton.2 rfl

theorem Sign.dropPlus_append {sign : List Char} {negative : Bool} (h : Sign sign negative)
    {c : Char} (hc : isOpening c = true) (rest : List Char) :
    dropPlus (sign ++ c :: rest) = normalSign negative ++ c :: rest := by
  have hplus : c ≠ '+' := ne_of_isOpening hc (by decide)
  cases h with
  | absent => simp [dropPlus, normalSign, hplus]
  | plus => rfl
  | minus => rfl

theorem normalizeExponent_append {front : List Char} (h : ∀ c ∈ front, isOpening c = true)
    (back : List Char) : normalizeExponent (front ++ back) = front ++ normalizeExponent back := by
  induction front with
  | nil => rfl
  | cons c front ih =>
    have hrest : ∀ d ∈ front, isOpening d = true := fun d hd => h d (List.mem_cons_of_mem _ hd)
    rw [List.cons_append, normalizeExponent_cons (h c List.mem_cons_self), ih hrest,
      List.cons_append]

theorem normalizeExponent_normalSign_append (negative : Bool) (back : List Char) :
    normalizeExponent (normalSign negative ++ back) =
      normalSign negative ++ normalizeExponent back := by
  cases negative <;> rfl

/-- The normal form of a power of ten is a power of ten with the same value. -/
theorem Power.normalizeExponent {cs : List Char} {power : Int} (h : Power cs power) :
    Power (normalizeExponent cs) power ∧
      ∀ c ∈ Decimal.normalizeExponent cs, isNormalized c = true := by
  cases h with
  | absent => exact ⟨.absent, nofun⟩
  | @present mark sign cs negative value hmark hsign h =>
    have hnormal : Decimal.normalizeExponent (mark :: (sign ++ cs)) =
        'E' :: (normalSign negative ++ cs) := by
      obtain ⟨c, rest, rfl, hc⟩ := h.exists_opening
      rw [Decimal.normalizeExponent, if_pos hmark, hsign.dropPlus_append hc]
    rw [hnormal]
    refine ⟨.present (Or.inr rfl) (sign_normalSign negative) h, ?_⟩
    rintro c (_ | ⟨_, hc⟩)
    · rfl
    · rcases List.mem_append.1 hc with hc | hc
      · exact isNormalized_of_mem_normalSign c hc
      · exact isNormalized_of_isOpening (isOpening_of_isDigit (h.isDigit c hc))

/-- The normal form of a decimal is a decimal with the same parts. -/
theorem IsDecimal.normalize {cs : List Char} {p : DecimalParts} (h : IsDecimal cs p) :
    IsDecimal (normalize cs) p ∧ ∀ c ∈ Decimal.normalize cs, isNormalized c = true := by
  obtain @⟨sign, whole, point, fraction, exponent, negative, coefficient, power, hsign, hfraction,
    hdigits, hpower⟩ := h
  obtain ⟨c, front, hfront, hopening⟩ := hfraction.exists_front hdigits
  obtain ⟨hexponent, hcharacters⟩ := hpower.normalizeExponent
  have hnormal : Decimal.normalize (sign ++ (whole ++ point ++ exponent)) =
      normalSign negative ++ (whole ++ point ++ normalizeExponent exponent) := by
    rw [hfront, List.cons_append, Decimal.normalize,
      hsign.dropPlus_append (hopening c List.mem_cons_self), normalizeExponent_normalSign_append,
      ← List.cons_append, normalizeExponent_append hopening]
  rw [hnormal]
  refine ⟨.mk (sign_normalSign negative) hfraction hdigits hexponent, fun d hd => ?_⟩
  rw [hfront, List.mem_append, List.mem_append] at hd
  rcases hd with hd | hd | hd
  · exact isNormalized_of_mem_normalSign d hd
  · exact isNormalized_of_isOpening (hopening d hd)
  · exact hcharacters d hd

theorem dropPlus_eq_self {cs : List Char} (h : ∀ c ∈ cs, isNormalized c = true) :
    dropPlus cs = cs := by
  rw [dropPlus.eq_def]
  split
  · exact absurd (h '+' List.mem_cons_self) (by decide)
  · rfl

/-- A text in normal form is left as it is. -/
theorem normalize_eq_self {cs : List Char} (h : ∀ c ∈ cs, isNormalized c = true) :
    Decimal.normalize cs = cs := by
  rw [Decimal.normalize, dropPlus_eq_self h]
  induction cs with
  | nil => rfl
  | cons c cs ih =>
    have hrest : ∀ d ∈ cs, isNormalized d = true := fun d hd => h d (List.mem_cons_of_mem _ hd)
    have he : c ≠ 'e' := ne_of_isNormalized (h c List.mem_cons_self) (by decide)
    rw [Decimal.normalizeExponent]
    split
    · next hmark => rw [dropPlus_eq_self hrest, hmark.resolve_left he]
    · rw [ih hrest]

/-! ## Exact decimals -/

theorem withoutUnderscores_eq_self {cs : List Char} (h : ∀ c ∈ cs, isNormalized c = true) :
    withoutUnderscores cs = cs :=
  List.filter_eq_self.2 fun c hc => bne_iff_ne.2 (ne_of_isNormalized (h c hc) (by decide))

theorem isExactLetter_of_ofChar? {c : Char} (h : DecimalSuffix.ofChar? c = some .exact) :
    IsExactLetter [c] := by
  rw [DecimalSuffix.ofChar?.eq_def] at h
  split at h
  all_goals first
    | exact Or.inr (Or.inl rfl)
    | exact Or.inr (Or.inr rfl)
    | cases h

/-- What is kept exactly has the letter for that behind it, or none, and is kept in normal form. -/
theorem exists_body {text s : String} (h : readDecimal text = .ok (.bigDecimal s)) :
    ∃ body letter d, withoutUnderscores text.toList = body ++ letter ∧ IsExactLetter letter ∧
      read? body = some d ∧ s = String.ofList (Decimal.normalize body) := by
  rcases splitSuffix_cases DecimalSuffix.ofChar? (withoutUnderscores text.toList) with
    hsplit | ⟨body, c, suffix, hbody, hc, hsplit⟩
  · obtain ⟨d, hread, hnumber⟩ := (readDecimal_eq_ok_iff hsplit).1 h
    cases hnumber
    exact ⟨_, [], d, (List.append_nil _).symm, Or.inl rfl, hread, rfl⟩
  · obtain ⟨d, hread, hnumber⟩ := (readDecimal_eq_ok_iff hsplit).1 h
    cases suffix with
    | float => cases hnumber
    | double => cases hnumber
    | exact =>
      cases hnumber
      exact ⟨body, [c], d, hbody, isExactLetter_of_ofChar? hc, hread, rfl⟩

/-- **Decimals are normalised without changing their value.**  A text with a digit that is read as
an exact decimal is kept as a text without underscores, plus signs, small `e`s and suffix letters.
The two have the same sign, the same digits on both sides of the point and the same power of ten, so
they denote the same number and no other.  The text that is kept is read as itself. -/
theorem exactDecimal_normalForm {text s : String} (hdigit : text.toList.any Char.isDigit = true)
    (h : readDecimal text = .ok (.bigDecimal s)) :
    (∀ c ∈ s.toList, c ≠ '_' ∧ c ≠ '+' ∧ c ≠ 'e' ∧ DecimalSuffix.ofChar? c = none) ∧
      (∃ body letter p, withoutUnderscores text.toList = body ++ letter ∧ IsExactLetter letter ∧
        IsDecimal body p ∧ IsDecimal s.toList p ∧
        ∀ q, (Denotes body q ↔ q = p.value) ∧ (Denotes s.toList q ↔ q = p.value)) ∧
      readDecimal s = .ok (.bigDecimal s) := by
  obtain ⟨body, letter, d, hbody, hletter, hread, rfl⟩ := exists_body h
  obtain ⟨c, hc, hcdigit⟩ := List.any_eq_true.1 hdigit
  have hkept : c ∈ body := by
    have hne : c ≠ '_' := by
      rintro rfl
      cases hcdigit
    have hmem : c ∈ body ++ letter := hbody ▸ List.mem_filter.2 ⟨hc, bne_iff_ne.2 hne⟩
    refine (List.mem_append.1 hmem).resolve_right fun hmem => ?_
    rcases hletter with rfl | rfl | rfl
    · cases hmem
    · cases List.mem_singleton.1 hmem
      cases hcdigit
    · cases List.mem_singleton.1 hmem
      cases hcdigit
  obtain ⟨p, hp⟩ := exists_isDecimal hread hkept hcdigit
  obtain ⟨hnormal, hcharacters⟩ := hp.normalize
  rw [String.toList_ofList]
  refine ⟨fun c hc => ⟨?_, ?_, ?_, ?_⟩, ⟨body, letter, p, hbody, hletter, hp, hnormal, ?_⟩, ?_⟩
  · exact ne_of_isNormalized (hcharacters c hc) (by decide)
  · exact ne_of_isNormalized (hcharacters c hc) (by decide)
  · exact ne_of_isNormalized (hcharacters c hc) (by decide)
  · exact ofChar?_eq_none_of_isNormalized (hcharacters c hc)
  · exact fun q => ⟨hp.denotes_iff q, hnormal.denotes_iff q⟩
  · have hsplit : splitSuffix DecimalSuffix.ofChar?
        (withoutUnderscores (String.ofList (Decimal.normalize body)).toList) =
          (Decimal.normalize body, none) := by
      rw [String.toList_ofList, withoutUnderscores_eq_self hcharacters,
        splitSuffix_eq_self fun c hc => ofChar?_eq_none_of_isNormalized (hcharacters c hc)]
    refine (readDecimal_eq_ok_iff hsplit).2 ⟨_, hnormal.read?_eq, ?_⟩
    rw [Decimal.toNumber, normalize_eq_self hcharacters]

/-- A decimal with both signs, underscores and a suffix. -/
theorem exactDecimal_normalForm_signs :
    "+_1.5e+0_2G".toList.any Char.isDigit = true ∧
    readDecimal "+_1.5e+0_2G" = .ok (.bigDecimal "1.5E02") ∧
    (∀ c ∈ "1.5E02".toList, c ≠ '_' ∧ c ≠ '+' ∧ c ≠ 'e' ∧ DecimalSuffix.ofChar? c = none) ∧
    (∃ body letter, withoutUnderscores "+_1.5e+0_2G".toList = body ++ letter ∧
      IsExactLetter letter ∧ Denotes body 150 ∧ Denotes "1.5E02".toList 150) ∧
    readDecimal "1.5E02" = .ok (.bigDecimal "1.5E02") := by
  have hread : readDecimal "+_1.5e+0_2G" = .ok (.bigDecimal "1.5E02") := rfl
  obtain ⟨hcharacters, ⟨body, letter, p, hbody, hletter, hp, hnormal, hdenotes⟩, hagain⟩ :=
    exactDecimal_normalForm (by decide) hread
  have hparts : some (Decimal.finite false 15 1) =
      some (.finite p.negative p.coefficient (p.power - p.fraction.length)) := hnormal.read?_eq
  obtain ⟨hnegative, hcoefficient, hpower⟩ := Decimal.finite.inj (Option.some.inj hparts)
  have hvalue : 150 = p.value := by
    rw [DecimalParts.value, ← hnegative, ← hcoefficient, ← hpower]
    norm_num
  exact ⟨by decide, hread, hcharacters,
    ⟨body, letter, hbody, hletter, (hdenotes 150).1.2 hvalue, (hdenotes 150).2.2 hvalue⟩, hagain⟩

end GroovyLowering.Literal
