import QuickJsValue.Float64

/-!
# What `(double)n` is worth

`Float64.ofInt` computes the bits of `(double)n`; this module says what those bits mean, read as
the three fields of a binary64. `ofInt_fields` is the one fact about the bit layout: the fields
are the sign of `n`, the exponent of `|n|` and the rounded significand, with a carry out of the
significand moved into the exponent. Everything else is about `roundSignificand`: up to `2^53`
it loses nothing (`ofInt_exact`), and above it rounds to the nearest multiple of the last place,
ties to even (`ofInt_nearest`). These are the two regimes of the double `JS_NewInt64` stores for
an argument outside `int`.

The last section reads a finite double as the number it stands for, `scaledValue?`, scaled by
`2^1074` so that it is whole, and states the rounding of an integer on that scale as its own
definition, `roundedValue`. `scaledValue?_ofInt` says the bits stand for the rounded integer, and
`roundedValue_mono` that rounding never swaps two integers.
-/

namespace QuickJs

namespace Float64

/-- The three fields of a binary64: sign bit, biased exponent and fraction. A normal double
with these fields is `±(2^52 + fraction) * 2^(biasedExponent - 1075)`. -/
def signBit (d : BitVec 64) : Nat := d.toNat / 2 ^ 63
def biasedExponent (d : BitVec 64) : Nat := d.toNat / 2 ^ 52 % 2 ^ 11
def fraction (d : BitVec 64) : Nat := d.toNat % 2 ^ 52

/-- The magnitude `(2^52 + fraction) * 2^(biasedExponent - 1075)` of a normal double whose
biased exponent is at least `1075`, where it is a whole number. -/
def integerMagnitude (d : BitVec 64) : Nat := (fraction d + 2 ^ 52) * 2 ^ (biasedExponent d - 1075)

/-- The header's NaN test is IEEE 754's: a biased exponent of all ones and a nonzero fraction, of
either sign. -/
theorem isNan_iff_fields (d : BitVec 64) :
    isNan d = true ↔ biasedExponent d = 2047 ∧ fraction d ≠ 0 := by
  have := d.isLt
  rw [isNan_iff, biasedExponent, fraction]
  omega

theorem fields_of_toNat {d : BitVec 64} {s x f : Nat} (hx : x < 2 ^ 11) (hf : f < 2 ^ 52)
    (hd : d.toNat = s * 2 ^ 63 + x * 2 ^ 52 + f) :
    signBit d = s ∧ biasedExponent d = x ∧ fraction d = f := by
  have hlow : d.toNat = f + (x + s * 2 ^ 11) * 2 ^ 52 := by omega
  have hhigh : d.toNat = (x * 2 ^ 52 + f) + s * 2 ^ 63 := by omega
  refine ⟨?_, ?_, ?_⟩
  · rw [signBit, hhigh, Nat.add_mul_div_right _ _ (Nat.two_pow_pos _),
      Nat.div_eq_of_lt (by omega), Nat.zero_add]
  · rw [biasedExponent, hlow, Nat.add_mul_div_right _ _ (Nat.two_pow_pos _), Nat.div_eq_of_lt hf,
      Nat.zero_add, Nat.add_mul_mod_self_right, Nat.mod_eq_of_lt hx]
  · rw [fraction, hlow, Nat.add_mul_mod_self_right, Nat.mod_eq_of_lt hf]

/-- The fields of `ofInt n`: the sign of `n`, and the rounded significand as `2^52 + fraction`,
shifted by `c = 1` into the exponent when rounding carried out of 53 bits. -/
theorem ofInt_fields (n : Int) (hpos : 0 < n.natAbs) (hn : n.natAbs < 2 ^ 64) :
    signBit (ofInt n) = (if n < 0 then 1 else 0) ∧
      fraction (ofInt n) % 2 = roundSignificand n.natAbs (bitLength 64 n.natAbs - 1) % 2 ∧
      ∃ c ≤ 1, biasedExponent (ofInt n) = bitLength 64 n.natAbs - 1 + 1023 + c ∧
        (fraction (ofInt n) + 2 ^ 52) * 2 ^ c =
          roundSignificand n.natAbs (bitLength 64 n.natAbs - 1) := by
  obtain ⟨hbpos, hle, hlo, hhi⟩ := bitLength_spec 64 n.natAbs hpos hn
  obtain ⟨hrlo, hrhi⟩ := roundSignificand_bounds hlo (by rwa [Nat.sub_add_cancel hbpos])
  have hval := ofInt_toNat n hpos hn
  rcases Nat.lt_or_eq_of_le hrhi with hlt | hcarry
  · obtain ⟨hs, hx, hf⟩ := fields_of_toNat (by omega) (by omega) hval
    refine ⟨hs, by rw [hf]; omega, 0, Nat.zero_le 1, hx, ?_⟩
    rw [hf, pow_zero, Nat.mul_one, Nat.sub_add_cancel hrlo]
  · obtain ⟨hs, hx, hf⟩ := fields_of_toNat (by omega) (by decide)
      (show (ofInt n).toNat = (if n < 0 then 1 else 0) * 2 ^ 63 +
        (bitLength 64 n.natAbs - 1 + 1024) * 2 ^ 52 + 0 by omega)
    refine ⟨hs, by rw [hf, hcarry]; rfl, 1, le_refl 1, hx, ?_⟩
    rw [hf, hcarry]; rfl

/-! ### Exactness below `2^53` -/

theorem roundSignificand_exact {m e : Nat} (hlo : 2 ^ e ≤ m) (hle : m ≤ 2 ^ 53)
    (hhi : m < 2 ^ (e + 1)) : roundSignificand m e * 2 ^ e = m * 2 ^ 52 := by
  by_cases hsmall : e ≤ 52
  · rw [roundSignificand_of_le hsmall, Nat.mul_assoc, ← pow_add, Nat.sub_add_cancel hsmall]
  · have he : e = 53 := by
      have : e < 54 :=
        (Nat.pow_lt_pow_iff_right (show 1 < 2 by decide)).mp (show 2 ^ e < 2 ^ 54 by omega)
      omega
    subst he
    have hm : m = 2 ^ 53 := by omega
    subst hm
    decide

/-- An integer of magnitude at most `2^53` converts exactly: `ofInt n` is a normal double of
sign `n < 0` whose value `(2^52 + fraction) * 2^(biasedExponent - 1075)` is `|n|`. -/
theorem ofInt_exact (n : Int) (hpos : 0 < n.natAbs) (hle : n.natAbs ≤ 2 ^ 53) :
    signBit (ofInt n) = (if n < 0 then 1 else 0) ∧ 1023 ≤ biasedExponent (ofInt n) ∧
      (fraction (ofInt n) + 2 ^ 52) * 2 ^ (biasedExponent (ofInt n) - 1023) =
        n.natAbs * 2 ^ 52 := by
  obtain ⟨hbpos, -, hlo, hhi⟩ := bitLength_spec 64 n.natAbs hpos (by omega)
  have hexact := roundSignificand_exact hlo hle (by rwa [Nat.sub_add_cancel hbpos])
  obtain ⟨hs, -, c, -, hE, hsig⟩ := ofInt_fields n hpos (by omega)
  refine ⟨hs, by omega, ?_⟩
  rw [hE, show bitLength 64 n.natAbs - 1 + 1023 + c - 1023 = c + (bitLength 64 n.natAbs - 1) by
    omega, pow_add, ← Nat.mul_assoc, hsig, hexact]

example : ofInt (2 ^ 31) = 0x41e0000000000000 := by decide

/-! ### Rounding above `2^53` -/

theorem bitLength_sub_one_eq_log2 {fuel m : Nat} (hpos : 0 < m) (hlt : m < 2 ^ fuel) :
    bitLength fuel m - 1 = Nat.log2 m := by
  obtain ⟨hbpos, -, hlo, hhi⟩ := bitLength_spec fuel m hpos hlt
  have hge := (Nat.le_log2 (by omega)).mpr hlo
  have hlt' := (Nat.log2_lt (by omega)).mpr hhi
  omega

/-- Above `2^53` the significand is `m` rounded to a multiple of `2^(e - 52)`: within half of
one, and even on a tie. -/
theorem roundSignificand_nearest (m : Nat) {e : Nat} (he : 53 ≤ e) :
    roundSignificand m e * 2 ^ (e - 52) ≤ m + 2 ^ (e - 53) ∧
      m ≤ roundSignificand m e * 2 ^ (e - 52) + 2 ^ (e - 53) ∧
      (roundSignificand m e * 2 ^ (e - 52) + 2 ^ (e - 53) = m ∨
          m + 2 ^ (e - 53) = roundSignificand m e * 2 ^ (e - 52) →
        roundSignificand m e % 2 = 0) := by
  have hhalf : 2 ^ (e - 52) = 2 * 2 ^ (e - 53) := by
    rw [← Nat.pow_succ']; congr 1; omega
  have hdiv : m / 2 ^ (e - 52) * 2 ^ (e - 52) + m % 2 ^ (e - 52) = m := by
    rw [Nat.mul_comm]; exact Nat.div_add_mod m _
  have hmod := Nat.mod_lt m (Nat.two_pow_pos (e - 52))
  have hpos := Nat.two_pow_pos (e - 53)
  rw [roundSignificand_of_lt (by omega)]
  split
  · rw [Nat.succ_mul]; omega
  · omega

/-- Above `2^53` the conversion rounds to nearest, ties to even: the double is a whole number
within half a unit in the last place of `|n|` (`2^(log2 |n| - 52)`), and on a tie its fraction
is even. -/
theorem ofInt_nearest (n : Int) (hbig : 2 ^ 53 < n.natAbs) (hn : n.natAbs < 2 ^ 64) :
    signBit (ofInt n) = (if n < 0 then 1 else 0) ∧ 1075 ≤ biasedExponent (ofInt n) ∧
      integerMagnitude (ofInt n) ≤ n.natAbs + 2 ^ (Nat.log2 n.natAbs - 53) ∧
      n.natAbs ≤ integerMagnitude (ofInt n) + 2 ^ (Nat.log2 n.natAbs - 53) ∧
      (integerMagnitude (ofInt n) + 2 ^ (Nat.log2 n.natAbs - 53) = n.natAbs ∨
          n.natAbs + 2 ^ (Nat.log2 n.natAbs - 53) = integerMagnitude (ofInt n) →
        fraction (ofInt n) % 2 = 0) := by
  have hpos : 0 < n.natAbs := by omega
  obtain ⟨hbpos, -, hlo, hhi⟩ := bitLength_spec 64 n.natAbs hpos hn
  have he : 53 ≤ bitLength 64 n.natAbs - 1 := by
    have := (Nat.pow_lt_pow_iff_right (show 1 < 2 by decide)).mp
      (show 2 ^ 53 < 2 ^ bitLength 64 n.natAbs by omega)
    omega
  obtain ⟨hs, -, c, -, hE, hsig⟩ := ofInt_fields n hpos hn
  have hexp : 1075 ≤ biasedExponent (ofInt n) := by omega
  have hmag : integerMagnitude (ofInt n) = roundSignificand n.natAbs (bitLength 64 n.natAbs - 1) *
      2 ^ (bitLength 64 n.natAbs - 1 - 52) := by
    rw [integerMagnitude, hE, show bitLength 64 n.natAbs - 1 + 1023 + c - 1075 =
      c + (bitLength 64 n.natAbs - 1 - 52) by omega, pow_add, ← Nat.mul_assoc, hsig]
  obtain ⟨hbelow, habove, htie⟩ := roundSignificand_nearest n.natAbs he
  rw [hmag, ← bitLength_sub_one_eq_log2 hpos hn]
  exact ⟨hs, hexp, hbelow, habove, fun h => (ofInt_fields n hpos hn).2.1.trans (htie h)⟩

example : ofInt (2 ^ 53 + 1) = 0x4340000000000000 := by decide
example : ofInt (-2 ^ 63) = 0xc3e0000000000000 := by decide

/-! ### The number a double stands for -/

/-- The number a finite double stands for, scaled by `2^1074` so that every finite double is a
whole number: `±fraction` for a subnormal, `±(2^52 + fraction) * 2^(biasedExponent - 1)` for a
normal double. An infinity or a NaN, biased exponent `2047`, stands for no number. -/
def scaledValue? (d : BitVec 64) : Option Int :=
  if biasedExponent d = 2047 then none
  else
    let magnitude : Nat :=
      if biasedExponent d = 0 then fraction d
      else (fraction d + 2 ^ 52) * 2 ^ (biasedExponent d - 1)
    some (if signBit d = 1 then -(magnitude : Int) else magnitude)

theorem scaledValue?_of_isNan {d : BitVec 64} (hd : isNan d = true) : scaledValue? d = none := by
  rw [scaledValue?, if_pos ((isNan_iff_fields d).mp hd).1]

/-- `m` rounded to 53 significant bits, scaled by `2^1074`: the significand `roundSignificand`
keeps, which is the nearest with ties to even (`roundSignificand_nearest`), times the place of
its last bit. -/
def roundedMagnitude (m : Nat) : Nat :=
  if m = 0 then 0 else roundSignificand m (Nat.log2 m) * 2 ^ (Nat.log2 m + 1022)

/-- The value IEEE 754 gives `(double)n`, scaled by `2^1074`: `|n|` rounded, with `n`'s sign. -/
def roundedValue (n : Int) : Int :=
  if n < 0 then -(roundedMagnitude n.natAbs : Int) else roundedMagnitude n.natAbs

/-- The double `ofInt n` computes stands for `roundedValue n`: reading its fields back gives the
rounded integer, whether or not rounding carried into the exponent. -/
theorem scaledValue?_ofInt (n : Int) (hn : n.natAbs < 2 ^ 64) :
    scaledValue? (ofInt n) = some (roundedValue n) := by
  rcases Nat.eq_zero_or_pos n.natAbs with hzero | hpos
  · rw [Int.natAbs_eq_zero.mp hzero]
    simp [ofInt, scaledValue?, roundedValue, roundedMagnitude, biasedExponent, fraction, signBit]
  · obtain ⟨hs, -, c, hc, hE, hsig⟩ := ofInt_fields n hpos hn
    obtain ⟨hbpos, hb, -, -⟩ := bitLength_spec 64 n.natAbs hpos hn
    have hmag : (fraction (ofInt n) + 2 ^ 52) * 2 ^ (biasedExponent (ofInt n) - 1) =
        roundedMagnitude n.natAbs := by
      rw [roundedMagnitude, if_neg (by omega), ← bitLength_sub_one_eq_log2 hpos hn, hE,
        show bitLength 64 n.natAbs - 1 + 1023 + c - 1 = c + (bitLength 64 n.natAbs - 1 + 1022) by
          omega, pow_add, ← Nat.mul_assoc, hsig]
    rw [scaledValue?, if_neg (show biasedExponent (ofInt n) ≠ 2047 by omega)]
    dsimp only
    rw [if_neg (show biasedExponent (ofInt n) ≠ 0 by omega), hmag, hs, roundedValue]
    by_cases hneg : n < 0
    · rw [if_pos hneg, if_pos rfl, if_pos hneg]
    · rw [if_neg hneg, if_neg Nat.zero_ne_one, if_neg hneg]

theorem roundedMagnitude_exact {m : Nat} (hm : m ≤ 2 ^ 53) :
    roundedMagnitude m = m * 2 ^ 1074 := by
  rcases Nat.eq_zero_or_pos m with rfl | hpos
  · rw [roundedMagnitude, if_pos rfl, Nat.zero_mul]
  · have hexact := roundSignificand_exact (Nat.log2_self_le (by omega)) hm Nat.lt_log2_self
    rw [roundedMagnitude, if_neg (by omega), pow_add, ← Nat.mul_assoc, hexact, Nat.mul_assoc,
      ← pow_add]

theorem roundedValue_exact {n : Int} (hn : n.natAbs ≤ 2 ^ 53) :
    roundedValue n = n * 2 ^ 1074 := by
  rw [roundedValue, roundedMagnitude_exact hn]
  split
  · rw [Int.ofNat_mul, Int.natCast_pow, Int.ofNat_natAbs_of_nonpos (by omega), neg_mul, neg_neg]
    rfl
  · rw [Int.ofNat_mul, Int.natCast_pow, Int.natAbs_of_nonneg (by omega)]; rfl

theorem roundSignificand_mul_eq_iff (m : Nat) {e : Nat} (he : 53 ≤ e) :
    roundSignificand m e * 2 ^ (e - 52) = m ↔ m % 2 ^ (e - 52) = 0 := by
  have hhalf : 2 ^ (e - 52) = 2 * 2 ^ (e - 53) := by
    rw [← Nat.pow_succ']; congr 1; omega
  have hdiv : m / 2 ^ (e - 52) * 2 ^ (e - 52) + m % 2 ^ (e - 52) = m := by
    rw [Nat.mul_comm]; exact Nat.div_add_mod m _
  have hmod := Nat.mod_lt m (Nat.two_pow_pos (e - 52))
  have hpos := Nat.two_pow_pos (e - 53)
  rw [roundSignificand_of_lt (by omega)]
  split
  · rw [Nat.succ_mul]; constructor <;> intro h <;> omega
  · constructor <;> intro h <;> omega

theorem roundedMagnitude_eq_iff (m : Nat) :
    roundedMagnitude m = m * 2 ^ 1074 ↔ m % 2 ^ (Nat.log2 m - 52) = 0 := by
  rcases Nat.eq_zero_or_pos m with rfl | hpos
  · rw [roundedMagnitude, if_pos rfl, Nat.zero_mul, Nat.zero_mod]
  by_cases hsmall : Nat.log2 m ≤ 52
  · rw [roundedMagnitude, if_neg (by omega), roundSignificand_of_le hsmall, Nat.mul_assoc,
      ← pow_add, show 52 - Nat.log2 m + (Nat.log2 m + 1022) = 1074 by omega,
      show Nat.log2 m - 52 = 0 by omega, pow_zero, Nat.mod_one]
    exact iff_of_true rfl rfl
  · rw [roundedMagnitude, if_neg (by omega), ← roundSignificand_mul_eq_iff m (by omega),
      show Nat.log2 m + 1022 = (Nat.log2 m - 52) + 1074 by omega, Nat.pow_add, ← Nat.mul_assoc,
      Nat.mul_right_cancel_iff (Nat.two_pow_pos 1074)]

theorem roundedValue_eq_iff (n : Int) :
    roundedValue n = n * 2 ^ 1074 ↔ n.natAbs % 2 ^ (Nat.log2 n.natAbs - 52) = 0 := by
  have hscale : ((n.natAbs * 2 ^ 1074 : Nat) : Int) = n.natAbs * 2 ^ 1074 := by
    rw [Int.ofNat_mul, Int.natCast_pow]; rfl
  rw [← roundedMagnitude_eq_iff, roundedValue, ← Int.ofNat_inj, hscale]
  split
  · rw [neg_eq_iff_eq_neg, ← neg_mul, ← Int.ofNat_natAbs_of_nonpos (by omega)]
  · rw [Int.natAbs_of_nonneg (by omega)]

/-- Within one binade a larger integer never gets a smaller significand: the quotient grows, or
it stays and the remainder that decides the rounding grows. -/
theorem roundSignificand_mono {m m' e : Nat} (h : m ≤ m') :
    roundSignificand m e ≤ roundSignificand m' e := by
  by_cases hsmall : e ≤ 52
  · rw [roundSignificand_of_le hsmall, roundSignificand_of_le hsmall]
    exact Nat.mul_le_mul_right _ h
  rw [roundSignificand_of_lt (by omega), roundSignificand_of_lt (by omega)]
  have hq : m / 2 ^ (e - 52) ≤ m' / 2 ^ (e - 52) := Nat.div_le_div_right h
  rcases Nat.lt_or_eq_of_le hq with hlt | heq
  · calc _ ≤ m / 2 ^ (e - 52) + 1 := by split <;> omega
      _ ≤ m' / 2 ^ (e - 52) := hlt
      _ ≤ _ := by split <;> omega
  · have hr : m % 2 ^ (e - 52) ≤ m' % 2 ^ (e - 52) := by
      have hm := Nat.div_add_mod m (2 ^ (e - 52))
      have hm' := Nat.div_add_mod m' (2 ^ (e - 52))
      rw [heq] at hm
      omega
    rw [heq]
    split
    · rw [if_pos (by omega)]
    · split <;> omega

/-- Rounding is monotone. Across binades it is because every significand lies in
`[2^52, 2^53]`, so a double of the lower binade is at most the least of the next. -/
theorem roundedMagnitude_mono {m m' : Nat} (h : m ≤ m') :
    roundedMagnitude m ≤ roundedMagnitude m' := by
  rcases Nat.eq_zero_or_pos m with rfl | hpos
  · rw [roundedMagnitude, if_pos rfl]; exact Nat.zero_le _
  rw [roundedMagnitude, roundedMagnitude, if_neg (by omega), if_neg (by omega)]
  have hlog : Nat.log2 m ≤ Nat.log2 m' :=
    (Nat.le_log2 (by omega)).mpr ((Nat.log2_self_le (by omega)).trans h)
  rcases Nat.lt_or_eq_of_le hlog with hlt | heq
  · have hr := (roundSignificand_bounds (Nat.log2_self_le (by omega)) (@Nat.lt_log2_self m)).2
    have hr' := (roundSignificand_bounds (Nat.log2_self_le (by omega)) (@Nat.lt_log2_self m')).1
    calc roundSignificand m (Nat.log2 m) * 2 ^ (Nat.log2 m + 1022)
        ≤ 2 ^ 53 * 2 ^ (Nat.log2 m + 1022) := Nat.mul_le_mul_right _ hr
      _ = 2 ^ 52 * 2 ^ (Nat.log2 m + 1023) := by
        rw [← pow_add, ← pow_add,
          show 53 + (Nat.log2 m + 1022) = 52 + (Nat.log2 m + 1023) by omega]
      _ ≤ 2 ^ 52 * 2 ^ (Nat.log2 m' + 1022) :=
        Nat.mul_le_mul_left _ (Nat.pow_le_pow_right (by decide) (by omega))
      _ ≤ _ := Nat.mul_le_mul_right _ hr'
  · rw [heq]
    exact Nat.mul_le_mul_right _ (roundSignificand_mono h)

theorem roundedValue_mono {n n' : Int} (h : n ≤ n') : roundedValue n ≤ roundedValue n' := by
  unfold roundedValue
  split <;> split
  · have := roundedMagnitude_mono (show n'.natAbs ≤ n.natAbs by omega); omega
  · omega
  · omega
  · have := roundedMagnitude_mono (show n.natAbs ≤ n'.natAbs by omega); omega

end Float64

end QuickJs
