import Verdict.Literal
import Verdict.Proofs.Decimal.Exact
import Verdict.Proofs.Rule.Layout

/-!
# Numbers as they are written

The decimal that is chosen for a number reads back as this number, `toFloat_shortest`: either it was
tried out, or it has all digits of the number.  So a finite number is read from its own text,
`exists_numberText`.
-/

namespace Verdict.Decimal

open Float.Model

variable {x : Float} {d : Decimal} {b : Binary} {tie : Tie}

/-! ### The chosen decimal -/

theorem toFloat_ten_pow_mul (m n : Nat) (e : Int) : toFloat ⟨10 ^ n * m, e⟩ = toFloat ⟨m, e + n⟩ := by
  induction n generalizing e with
  | zero => simp
  | succ n ih =>
    have digits : 10 ^ (n + 1) * m = 10 * (10 ^ n * m) := by ring
    have exponents : e + ((n + 1 : Nat) : Int) = e + 1 + n := by
      push_cast
      ring
    rw [digits, toFloat_mul_ten, ih, exponents]

theorem toFloat_stripped (d : Decimal) (n : Nat) : (d.stripped n).toFloat = d.toFloat := by
  induction n generalizing d with
  | zero => rfl
  | succ n ih =>
    rw [stripped]
    split
    · rename_i h
      obtain ⟨m, hm⟩ := Nat.dvd_of_mod_eq_zero h
      rw [ih, ← toFloat_mul_ten, hm, Nat.mul_div_cancel_left _ (by decide), ← hm]
    · rfl

theorem toFloat_of_readsAs (h : readsAs x d = true) : d.toFloat = x := by
  have bits : d.toFloat.toBits = x.toBits := by simpa [readsAs] using h
  exact eq_of_toNat_toBits (by rw [bits])

theorem toFloat_of_onGrid {e : Int} (h : onGrid tie x e = some d) : d.toFloat = x := by
  apply toFloat_of_readsAs
  unfold onGrid at h
  dsimp only at h
  split at h
  · cases h
  · cases h
    assumption
  · cases h
    assumption
  · split at h
    · cases h
      assumption
    · cases h
      assumption
    · cases h
      assumption
    · cases h
      split
      · assumption
      · assumption

theorem toFloat_shortest (h : b.Canonical) (tie : Tie) :
    (shortest tie (b.toFloat .positive h)).toFloat = b.toFloat .positive h := by
  unfold shortest
  dsimp only
  rw [canonical, toFloat_stripped]
  cases found : List.findSome? _ (List.range 17) with
  | none => rw [Option.getD_none, Binary.ofFloat_toFloat, Binary.toFloat_exactly h]
  | some d =>
    obtain ⟨n, -, hn⟩ := List.exists_of_findSome?_eq_some found
    exact toFloat_of_onGrid hn

/-! ### Plain numbers -/

open Rule (NumberText)

theorem isDigit_of_mem_replicate {n : Nat} {c : Char} (h : c ∈ List.replicate n '0') :
    c.isDigit = true := by
  rw [(List.mem_replicate.1 h).2]
  rfl

theorem ofDigits_toDigits (n : Nat) : ofDigits (Nat.toDigits 10 n) = n :=
  Nat.ofDigitChars_ten_toDigits

theorem ofDigits_toDigits_zeros (m n : Nat) :
    ofDigits (Nat.toDigits 10 m ++ List.replicate n '0') = 10 ^ n * m := by
  unfold ofDigits
  rw [Nat.ofDigitChars_append, Nat.ofDigitChars_replicate_zero, Nat.ofDigitChars_ten_toDigits]

theorem ofDigits_zeros_toDigits (m n : Nat) :
    ofDigits (List.replicate n '0' ++ Nat.toDigits 10 m) = m := by
  unfold ofDigits
  rw [Nat.ofDigitChars_append, Nat.ofDigitChars_replicate_zero, Nat.mul_zero,
    Nat.ofDigitChars_ten_toDigits]

section Plain

variable (d) (o : Option Char) (ho : ∀ c ∈ o, c = '+' ∨ c = '-')

/-- The text is a number with the sign, and without the sign it reads as the decimal. -/
def ReadsBack (o : Option Char) (d : Decimal) (text : List Char) : Prop :=
  ∃ t : NumberText, t.text = o.toList ++ text ∧ t.sign = o ∧ t.numeral.toDecimal.toFloat = d.toFloat

theorem isDigit_of_mem_toDigits {n : Nat} {c : Char} (h : c ∈ Nat.toDigits 10 n) :
    c.isDigit = true :=
  Nat.isDigit_of_mem_toDigits (by decide) (by decide) h

include ho

theorem readsBack_whole (whole : 0 ≤ d.exponent) :
    ReadsBack o d (Nat.toDigits 10 d.digits ++ List.replicate d.exponent.toNat '0') := by
  refine ⟨⟨o, Nat.toDigits 10 d.digits ++ List.replicate d.exponent.toNat '0', none, none, ho, ?_,
    by simp, .inl ?_⟩, ?_, rfl, ?_⟩
  · intro c hc
    exact (List.mem_append.1 hc).elim isDigit_of_mem_toDigits isDigit_of_mem_replicate
  · exact List.append_ne_nil_of_left_ne_nil Nat.toDigits_ne_nil _
  · simp [NumberText.text, NumberText.pointText, NumberText.exponentText]
  · simp only [NumberText.numeral, Numeral.toDecimal, Option.getD_none, Option.map_none,
      List.append_nil, List.length_nil, ofDigits_toDigits_zeros, toFloat_ten_pow_mul]
    congr 2
    omega

theorem readsBack_point {n : Nat} (places : d.exponent = -n)
    (inside : n < (Nat.toDigits 10 d.digits).length) :
    ReadsBack o d ((Nat.toDigits 10 d.digits).take ((Nat.toDigits 10 d.digits).length - n) ++
      '.' :: (Nat.toDigits 10 d.digits).drop ((Nat.toDigits 10 d.digits).length - n)) := by
  refine ⟨⟨o, (Nat.toDigits 10 d.digits).take ((Nat.toDigits 10 d.digits).length - n),
    some ((Nat.toDigits 10 d.digits).drop ((Nat.toDigits 10 d.digits).length - n)), none, ho, ?_,
    ?_, .inl ?_⟩, ?_, rfl, ?_⟩
  · exact fun c hc => isDigit_of_mem_toDigits (List.mem_of_mem_take hc)
  · rintro _ ⟨⟩ c hc
    exact isDigit_of_mem_toDigits (List.mem_of_mem_drop hc)
  · apply List.ne_nil_of_length_pos
    rw [List.length_take]
    omega
  · simp [NumberText.text, NumberText.pointText, NumberText.exponentText]
  · simp only [NumberText.numeral, Numeral.toDecimal, Option.getD_some, Option.map_none,
      Option.getD_none, List.take_append_drop, ofDigits_toDigits, List.length_drop]
    congr 2
    omega

theorem readsBack_zeros {n : Nat} (places : d.exponent = -n)
    (outside : (Nat.toDigits 10 d.digits).length ≤ n) :
    ReadsBack o d ('0' :: '.' :: (List.replicate (n - (Nat.toDigits 10 d.digits).length) '0' ++
      Nat.toDigits 10 d.digits)) := by
  have digits : ofDigits (['0'] ++ (List.replicate (n - (Nat.toDigits 10 d.digits).length) '0' ++
      Nat.toDigits 10 d.digits)) = d.digits := ofDigits_zeros_toDigits d.digits (_ + 1)
  refine ⟨⟨o, ['0'], some (List.replicate (n - (Nat.toDigits 10 d.digits).length) '0' ++
    Nat.toDigits 10 d.digits), none, ho, by simp, ?_, .inl (by simp)⟩, ?_, rfl, ?_⟩
  · rintro _ ⟨⟩ c hc
    exact (List.mem_append.1 hc).elim isDigit_of_mem_replicate isDigit_of_mem_toDigits
  · simp [NumberText.text, NumberText.pointText, NumberText.exponentText]
  · simp only [NumberText.numeral, Numeral.toDecimal, Option.getD_some, Option.map_none,
      Option.getD_none, digits, List.length_append, List.length_replicate]
    congr 2
    omega

/-- A plain number, behind any sign, reads as the decimal it was made of. -/
theorem readsBack_plainText : ReadsBack o d (Literal.numberStyle.plainText d) := by
  unfold Style.plainText
  dsimp only
  split
  · rename_i whole
    simpa [Literal.numberStyle] using readsBack_whole d o ho whole
  · rename_i fraction
    obtain ⟨n, hn⟩ := Int.eq_ofNat_of_zero_le (show 0 ≤ -d.exponent by omega)
    have places : d.exponent = -n := by omega
    rw [hn, Int.toNat_natCast]
    split
    · rename_i inside
      exact readsBack_point d o ho places inside
    · rename_i outside
      exact readsBack_zeros d o ho places (Nat.le_of_not_lt outside)

end Plain

/-! ### Finite numbers -/

theorem zero_eq : (0.0 : Float) = signedZero .positive :=
  eq_of_toNat_toBits (by decide +kernel)

theorem infinity_eq : infinity = Float.ofModel (Float.Model.pack (.infinity .positive)) :=
  eq_of_toNat_toBits (by decide +kernel)

theorem magnitude_toFloat (style : Style) (h : b.Canonical) :
    style.magnitude (b.toFloat .positive h) =
      style.decimal (shortest style.tie (b.toFloat .positive h)) := by
  have notZero : (b.toFloat .positive h == 0.0) = false := by
    change UnpackedFloat.beq (b.toFloat .positive h).toModel.unpack (0.0 : Float).toModel.unpack = _
    rw [Binary.unpack_toFloat, zero_eq, unpack_signedZero]
    rfl
  have notInfinity : (b.toFloat .positive h == infinity) = false := by
    change UnpackedFloat.beq (b.toFloat .positive h).toModel.unpack infinity.toModel.unpack = _
    rw [Binary.unpack_toFloat, infinity_eq]
    rfl
  unfold Style.magnitude
  rw [notZero, notInfinity]
  rfl

/-- How a sign is written. -/
def signMark : UnpackedFloat.Sign → Option Char
  | .negative => some '-'
  | .positive => none

theorem isSign_of_mem_signMark {sign : UnpackedFloat.Sign} :
    ∀ c ∈ signMark sign, c = '+' ∨ c = '-' := by
  cases sign
  · rintro _ ⟨⟩
    exact .inr rfl
  · rintro _ ⟨⟩

theorem number_toFloat (style : Style) (sign : UnpackedFloat.Sign) (h : b.Canonical) :
    style.number (b.toFloat sign h) =
      (signMark sign).toList ++ style.decimal (shortest style.tie (b.toFloat .positive h)) := by
  have isNumber : (b.toFloat sign h).isNaN = false := by
    change (b.toFloat sign h).toModel.unpack.isNaN = false
    rw [Binary.unpack_toFloat]
    rfl
  unfold Style.number
  rw [isNumber, Binary.isNegative_toFloat, Binary.abs_toFloat, ← magnitude_toFloat]
  cases sign
  · rfl
  · rfl

theorem number_signedZero (sign : UnpackedFloat.Sign) :
    Literal.numberStyle.number (signedZero sign) =
      (signMark sign).toList ++ Literal.numberStyle.plainText ⟨0, 0⟩ := by
  cases sign
  · decide +kernel
  · decide +kernel

theorem toFloat_of_signMark {t : NumberText} {sign : UnpackedFloat.Sign}
    (h : t.sign = signMark sign) : t.numeral.toFloat =
      if sign == .negative then -t.numeral.toDecimal.toFloat else t.numeral.toDecimal.toFloat := by
  have negative : t.numeral.negative = (signMark sign == some '-') := congrArg (· == some '-') h
  unfold Numeral.toFloat
  rw [negative]
  cases sign
  · rfl
  · rfl

/-- A finite number is written as a number that reads as itself. -/
theorem exists_numberText (h : x.isFinite = true) :
    ∃ t : NumberText, t.text = Literal.numberStyle.number x ∧ t.numeral.toFloat = x := by
  rcases exists_of_isFinite h with ⟨sign, rfl⟩ | ⟨sign, b, hb, rfl⟩
  · obtain ⟨t, text, signed, size⟩ :=
      readsBack_plainText ⟨0, 0⟩ (signMark sign) isSign_of_mem_signMark
    refine ⟨t, by rw [text, number_signedZero], ?_⟩
    rw [toFloat_of_signMark signed, size, show toFloat ⟨0, 0⟩ = 0.0 from rfl, zero_eq]
    cases sign
    · rfl
    · rfl
  · obtain ⟨t, text, signed, size⟩ := readsBack_plainText
      (shortest .up (b.toFloat .positive hb)) (signMark sign) isSign_of_mem_signMark
    refine ⟨t, text.trans (number_toFloat Literal.numberStyle sign hb).symm, ?_⟩
    rw [toFloat_of_signMark signed, size, toFloat_shortest]
    cases sign
    · exact Binary.neg_toFloat hb
    · rfl

end Verdict.Decimal
