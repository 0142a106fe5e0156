import QuickJsValue.Number
import QuickJsValue.Truncation

/-!
# The `JS_CHECK_JSVALUE` build

The first branch of the header's layout selection makes `JSValue` a pointer to an incomplete
struct, so that `JSValue` and `JSValueConst` are different types and the compiler catches a value
passed with the wrong ownership. Every macro reads the pointer as an `intptr_t`, of `w` bits here,
with the tag in its low four bits. The header says this build does not produce working code; this
module says which part of the shared text still holds in it.

Conversions between a pointer and `intptr_t` keep the bits, as on every target the header
supports. The shift `(intptr_t)(val) << 4` of `JS_MKVAL` is the two's-complement shift GCC
defines for a negative or overflowing `val`, and `>> 4` is arithmetic. The conversion `(int)d`
of `__JS_NewFloat64` is a parameter `cvt` that agrees with `Float64.toInt32?` wherever C defines
the result, so that what is proved holds whatever the compiler does where C leaves it undefined.

Inline values work where `intptr_t` has room for the shifted payload: decoding `JS_MKVAL(tag,
val)` gives back the tag and the low `w - 4` bits of `val`, all of it from 36 bits up, and with
32-bit pointers the payload loses its top four bits. Heap values do not: every heap tag is
negative, so `tag | ptr` sets every bit from the fifth up, and `JS_VALUE_GET_PTR` reads `~15`
whatever the pointer. The tag reads back as one of `0 .. 15`, so the build breaks the laws the
shared text relies on (`not_lawful`). A double keeps its integral part only.
-/

namespace QuickJs

namespace CheckJsValue

variable (w : Nat)

/-- `JS_VALUE_GET_TAG` and `JS_VALUE_GET_NORM_TAG`: `((int)((intptr_t)(v) & 15))`, a value in
`0 .. 15` that the conversion to `int` keeps. -/
def jsValueGetTag (v : BitVec w) : BitVec 32 := (v &&& 15).setWidth 32

/-- `JS_VALUE_GET_INT`, `JS_VALUE_GET_BOOL` and `JS_VALUE_GET_SHORT_BIG_INT`:
`((int)((intptr_t)(v) >> 4))`, an arithmetic shift. -/
def jsValueGetInt (v : BitVec w) : BitVec 32 := (v.sshiftRight 4).signExtend 32

/-- `JS_VALUE_GET_PTR`: `((void *)((intptr_t)(v) & ~15))`, the `int` `~15` widened. -/
def jsValueGetPtr (v : BitVec w) : BitVec w := v &&& (~~~15 : BitVec 32).signExtend w

/-- `JS_VALUE_GET_FLOAT64`: `((double)((intptr_t)(v) >> 4))`. -/
def jsValueGetFloat64 (v : BitVec w) : BitVec 64 := Float64.ofInt (v.sshiftRight 4).toInt

/-- `JS_MKVAL`: `((JSValue)((tag) | (intptr_t)(val) << 4))`. -/
def jsMkval (tag val : BitVec 32) : BitVec w := tag.signExtend w ||| (val.signExtend w <<< 4)

/-- `JS_MKPTR`: `((JSValue)((tag) | (intptr_t)(ptr)))`. -/
def jsMkptr (tag : BitVec 32) (ptr : BitVec w) : BitVec w := tag.signExtend w ||| ptr

/-- `JS_TAG_IS_FLOAT64`: `((int)(tag) == JS_TAG_FLOAT64)`. -/
def jsTagIsFloat64 (tag : BitVec 32) : Bool := tag == jsTagFloat64

/-- `JS_NAN`: `JS_MKVAL(JS_TAG_FLOAT64, 0)`. -/
def jsNan : BitVec w := jsMkval w jsTagFloat64 0

/-- `__JS_NewFloat64`: `JS_MKVAL(JS_TAG_FLOAT64, (int)d)`, with `cvt` for `(int)d`. -/
def jsNewFloat64Raw (cvt : BitVec 64 → BitVec 32) (d : BitVec 64) : BitVec w :=
  jsMkval w jsTagFloat64 (cvt d)

/-- `__JS_NewShortBigInt`: `JS_MKVAL(JS_TAG_SHORT_BIG_INT, d)`. -/
def jsNewShortBigIntRaw (d : BitVec 32) : BitVec w := jsMkval w jsTagShortBigInt d

/-- `JS_VALUE_IS_NAN`: `false`. -/
def jsValueIsNan (_v : BitVec w) : Bool := false

end CheckJsValue

/-- `JS_CHECK_JSVALUE`: the layout of the build that checks ownership, with an `intptr_t` of `w`
bits and `cvt` for the conversion `(int)d`. -/
def Layout.checkJsValue (w : Nat) (cvt : BitVec 64 → BitVec 32) : Layout where
  JsValue := BitVec w
  ptrBits := w
  shortBigIntBits := 32
  jsValueGetTag := CheckJsValue.jsValueGetTag w
  jsValueGetNormTag := CheckJsValue.jsValueGetTag w
  jsValueGetInt := CheckJsValue.jsValueGetInt w
  jsValueGetBool := CheckJsValue.jsValueGetInt w
  jsValueGetShortBigInt := CheckJsValue.jsValueGetInt w
  jsValueGetFloat64 := CheckJsValue.jsValueGetFloat64 w
  jsValueGetPtr := CheckJsValue.jsValueGetPtr w
  jsMkval := CheckJsValue.jsMkval w
  jsMkptr := CheckJsValue.jsMkptr w
  jsNan := CheckJsValue.jsNan w
  jsNewFloat64Raw := CheckJsValue.jsNewFloat64Raw w cvt
  jsNewShortBigIntRaw := CheckJsValue.jsNewShortBigIntRaw w
  jsTagIsFloat64 := CheckJsValue.jsTagIsFloat64
  jsValueIsNan := CheckJsValue.jsValueIsNan w

namespace CheckJsValue

variable {w : Nat}

/-! ### Tags -/

theorem jsValueGetTag_toNat_lt (v : BitVec w) : (jsValueGetTag w v).toNat < 16 := by
  have h15 : (15 : BitVec w).toNat ≤ 15 := by
    show (BitVec.ofNat w 15).toNat ≤ 15
    rw [BitVec.toNat_ofNat]; exact Nat.mod_le _ _
  rw [jsValueGetTag, BitVec.toNat_setWidth, BitVec.toNat_and]
  exact lt_of_le_of_lt (Nat.mod_le _ _) (lt_of_le_of_lt Nat.and_le_right (by omega))

theorem getTag_toNat_lt (cvt : BitVec 64 → BitVec 32) (v : BitVec w) :
    ((Layout.checkJsValue w cvt).jsValueGetTag v).toNat < 16 :=
  jsValueGetTag_toNat_lt v

/-- The build breaks `getTag_mkptr`, a law the shared text relies on: `JS_TAG_OBJECT` is `-1`,
and no tag reads back as it. -/
theorem not_lawful (cvt : BitVec 64 → BitVec 32) : ¬(Layout.checkJsValue w cvt).Lawful :=
  fun hL => by
    have h := getTag_toNat_lt cvt (jsMkptr w jsTagObject 0)
    rw [show (Layout.checkJsValue w cvt).jsValueGetTag (jsMkptr w jsTagObject 0) = jsTagObject
      from hL.getTag_mkptr _ _] at h
    exact absurd h (by decide)

/-! ### Heap values -/

theorem getLsbD_heapTag (t : HeapTag) : ∀ i : Fin 32, 4 ≤ i.val → t.tag.getLsbD i = true := by
  cases t <;> decide

theorem msb_heapTag (t : HeapTag) : t.tag.msb = true := by
  cases t <;> decide

theorem getLsbD_notFifteen :
    ∀ i : Fin 32, (~~~15 : BitVec 32).getLsbD i = decide (4 ≤ i.val) := by
  decide

theorem jsValueGetPtr_jsMkptr (t : HeapTag) (p : BitVec w) :
    jsValueGetPtr w (jsMkptr w t.tag p) = (~~~15 : BitVec 32).signExtend w := by
  apply BitVec.eq_of_getLsbD_eq
  intro ⟨i, hi⟩
  simp only [jsValueGetPtr, jsMkptr, BitVec.getLsbD_and, BitVec.getLsbD_or,
    BitVec.getLsbD_signExtend, hi, decide_True, Bool.true_and]
  split
  · rename_i h32
    rw [getLsbD_notFifteen ⟨i, h32⟩]
    by_cases h4 : 4 ≤ i
    · rw [getLsbD_heapTag t ⟨i, h32⟩ h4, decide_eq_true h4]; rfl
    · rw [decide_eq_false h4, Bool.and_false]
  · rw [msb_heapTag, show (~~~15 : BitVec 32).msb = true by decide]; rfl

theorem getLsbD_fifteen (i : Nat) :
    (15 : BitVec w).getLsbD i = (decide (i < w) && decide (i < 4)) := by
  rw [BitVec.ofNat_eq_ofNat, BitVec.getLsbD_ofNat]
  exact congrArg _ (Nat.testBit_two_pow_sub_one 4 i)

theorem heapTag_add_sixteen (t : HeapTag) : t.tag + 16 = t.tag &&& 15 := by
  cases t <;> decide

theorem jsValueGetTag_jsMkptr (hw : 4 ≤ w) (t : HeapTag) {p : BitVec w} (hp : p &&& 15 = 0) :
    jsValueGetTag w (jsMkptr w t.tag p) = t.tag + 16 := by
  rw [heapTag_add_sixteen]
  apply BitVec.eq_of_getLsbD_eq
  intro ⟨i, hi⟩
  have hpi : (p &&& 15).getLsbD i = false := by rw [hp]; exact BitVec.getLsbD_zero
  simp only [BitVec.getLsbD_and, getLsbD_fifteen] at hpi
  simp only [jsValueGetTag, jsMkptr, BitVec.getLsbD_setWidth, BitVec.getLsbD_and,
    BitVec.getLsbD_or, BitVec.getLsbD_signExtend, getLsbD_fifteen, hi, decide_True, Bool.true_and,
    if_true]
  by_cases h4 : i < 4
  · have hiw : i < w := by omega
    simp only [hiw, h4, decide_True, Bool.and_true, Bool.true_and] at hpi ⊢
    rw [hpi, Bool.or_false]
  · simp [h4]

/-! ### Inline values -/

theorem getLsbD_of_toNat_lt {x : BitVec 32} (hx : x.toNat < 16) {i : Nat} (hi : 4 ≤ i) :
    x.getLsbD i = false :=
  Nat.testBit_lt_two_pow (lt_of_lt_of_le hx (Nat.pow_le_pow_right (show 2 > 0 by decide) hi))

theorem getLsbD_signExtend_of_toNat_lt {tag : BitVec 32} (htag : tag.toNat < 16) {i : Nat}
    (hi : 4 ≤ i) : (tag.signExtend w).getLsbD i = false := by
  rw [BitVec.getLsbD_signExtend, BitVec.msb_eq_getLsbD_last]
  split <;>
    simp [getLsbD_of_toNat_lt htag hi, getLsbD_of_toNat_lt htag (show 4 ≤ 32 - 1 by omega)]

theorem signExtend_signExtend {n m : Nat} (x : BitVec n) (hnm : n ≤ m) (k : Nat) :
    (x.signExtend m).signExtend k = x.signExtend k := by
  apply BitVec.eq_of_getLsbD_eq
  intro ⟨i, hi⟩
  simp only [BitVec.getLsbD_signExtend, hi, decide_True, Bool.true_and]
  by_cases him : i < m
  · simp only [him, decide_True, Bool.true_and, if_true]
  · rw [if_neg him, BitVec.msb_eq_getLsbD_last, BitVec.getLsbD_signExtend]
    rcases Nat.eq_zero_or_pos m with rfl | hm
    · obtain rfl : n = 0 := by omega
      simp [BitVec.msb_eq_getLsbD_last]
    · rw [decide_eq_true (by omega : m - 1 < m), Bool.true_and, if_neg (by omega : ¬i < n)]
      split
      · rw [BitVec.msb_eq_getLsbD_last, show m - 1 = n - 1 by omega]
      · rfl

/-- Shifting `JS_MKVAL(tag, val)` back gives `val` cut to the `w - 4` bits above the tag and
sign-extended: a tag of `0 .. 15` lies below the payload, and the shift drops its top bits. -/
theorem sshiftRight_jsMkval (hw : 5 ≤ w) {tag : BitVec 32} (htag : tag.toNat < 16)
    (val : BitVec 32) :
    (jsMkval w tag val).sshiftRight 4 = (val.signExtend (w - 4)).signExtend w := by
  have hbit : ∀ i, 4 ≤ i → i < w →
      (jsMkval w tag val).getLsbD i = (val.signExtend w).getLsbD (i - 4) := fun i h4 hi => by
    rw [jsMkval, BitVec.getLsbD_or, getLsbD_signExtend_of_toNat_lt htag h4, Bool.false_or,
      BitVec.getLsbD_shiftLeft, decide_eq_true hi, decide_eq_false (by omega : ¬i < 4)]
    rfl
  apply BitVec.eq_of_getLsbD_eq
  intro ⟨i, hi⟩
  dsimp only
  rw [BitVec.getLsbD_sshiftRight, decide_eq_false (by omega : ¬w ≤ i), Bool.not_false,
    Bool.true_and, BitVec.getLsbD_signExtend, decide_eq_true hi, Bool.true_and]
  by_cases h : 4 + i < w
  · rw [if_pos h, if_pos (by omega : i < w - 4), hbit _ (by omega) h, Nat.add_sub_cancel_left,
      BitVec.getLsbD_signExtend, BitVec.getLsbD_signExtend, decide_eq_true hi,
      decide_eq_true (by omega : i < w - 4)]
  · rw [if_neg h, if_neg (by omega : ¬i < w - 4), BitVec.msb_eq_getLsbD_last,
      BitVec.msb_eq_getLsbD_last, hbit _ (by omega) (by omega), BitVec.getLsbD_signExtend,
      BitVec.getLsbD_signExtend, decide_eq_true (by omega : w - 1 - 4 < w),
      decide_eq_true (by omega : w - 4 - 1 < w - 4), show w - 1 - 4 = w - 4 - 1 by omega]

theorem jsValueGetTag_jsMkval (hw : 4 ≤ w) {tag : BitVec 32} (htag : tag.toNat < 16)
    (val : BitVec 32) : jsValueGetTag w (jsMkval w tag val) = tag := by
  apply BitVec.eq_of_getLsbD_eq
  intro ⟨i, hi⟩
  simp only [jsValueGetTag, jsMkval, BitVec.getLsbD_setWidth, BitVec.getLsbD_and,
    BitVec.getLsbD_or, BitVec.getLsbD_shiftLeft, getLsbD_fifteen, hi, decide_True, Bool.true_and]
  by_cases h4 : i < 4
  · simp [BitVec.getLsbD_signExtend, h4, hi, show i < w by omega]
  · simp [h4, getLsbD_of_toNat_lt htag (by omega : 4 ≤ i)]

theorem jsValueGetInt_jsMkval (hw : 5 ≤ w) {tag : BitVec 32} (htag : tag.toNat < 16)
    (val : BitVec 32) :
    jsValueGetInt w (jsMkval w tag val) = (val.signExtend (w - 4)).signExtend 32 := by
  rw [jsValueGetInt, sshiftRight_jsMkval hw htag, signExtend_signExtend _ (by omega)]

theorem inlineTag_toNat_lt (t : InlineTag) : t.tag.toNat < 16 := by
  have := t.tag_toNat; omega

theorem decode_jsMkval (hw : 5 ≤ w) (cvt : BitVec 64 → BitVec 32) (t : InlineTag)
    (i : BitVec 32) : (Layout.checkJsValue w cvt).decode (jsMkval w t.tag i) =
      some (.inline t ((i.signExtend (w - 4)).signExtend 32)) := by
  have htag := jsValueGetTag_jsMkval (w := w) (by omega) (inlineTag_toNat_lt t) i
  unfold Layout.decode
  simp only [Layout.checkJsValue]
  rw [htag, if_neg (ne_jsTagFloat64_of_nonFloatTag t.nonFloatTag), HeapTag.ofTag?_inline,
    InlineTag.ofTag?_tag, jsValueGetInt_jsMkval hw (inlineTag_toNat_lt t)]
  rfl

/-! ### Numbers -/

end CheckJsValue

open CheckJsValue in
/-- In the `JS_CHECK_JSVALUE` build `JS_MKPTR` keeps neither its pointer nor its tag: a heap tag
is negative and sets every bit from the fifth up, so `JS_VALUE_GET_PTR` reads `~15` whatever the
pointer, and for a pointer aligned to 16 bytes `JS_VALUE_GET_TAG` reads the tag plus 16, a symbol
as `JS_TAG_FLOAT64`. The build breaks the laws the shared text relies on. -/
theorem checkJsValue_jsMkptr (hw : 4 ≤ w) (cvt : BitVec 64 → BitVec 32) (t : HeapTag)
    (p : BitVec w) :
    let L := Layout.checkJsValue w cvt
    L.jsValueGetPtr (L.jsMkptr t.tag p) = (~~~15 : BitVec 32).signExtend w ∧
    (p &&& 15 = 0 → L.jsValueGetTag (L.jsMkptr t.tag p) = t.tag + 16) ∧ ¬L.Lawful :=
  ⟨jsValueGetPtr_jsMkptr t p, jsValueGetTag_jsMkptr hw t, not_lawful cvt⟩

theorem checkJsValue_jsMkptr_object :
    4 ≤ 64 ∧ (let L := Layout.checkJsValue 64 (fun _ => 0)
    L.jsValueGetPtr (L.jsMkptr HeapTag.object.tag 0x10) = (~~~15 : BitVec 32).signExtend 64 ∧
    ((0x10 : BitVec 64) &&& 15 = 0 →
      L.jsValueGetTag (L.jsMkptr HeapTag.object.tag 0x10) = HeapTag.object.tag + 16) ∧
    ¬L.Lawful) :=
  ⟨by decide, checkJsValue_jsMkptr (by decide) _ .object 0x10⟩

open CheckJsValue in
/-- In the `JS_CHECK_JSVALUE` build an inline value keeps its tag, and its payload keeps the
`w - 4` bits of `intptr_t` above the tag: `JS_MKVAL(tag, val)` decodes to its kind with `val`
sign-extended from its low `w - 4` bits. With 64-bit pointers that is `val`, and every inline
value comes back; with 32-bit pointers the top four bits of the payload are lost. -/
theorem checkJsValue_inline_round_trip (hw : 5 ≤ w) (cvt : BitVec 64 → BitVec 32)
    (t : InlineTag) (i : BitVec 32) :
    let L := Layout.checkJsValue w cvt
    L.decode (L.encode (.inline t i)) = some (.inline t ((i.signExtend (w - 4)).signExtend 32)) ∧
    (36 ≤ w → L.decode (L.encode (.inline t i)) = some (.inline t i)) := by
  refine ⟨decode_jsMkval hw cvt t i, fun h36 => ?_⟩
  show (Layout.checkJsValue w cvt).decode (jsMkval w t.tag i) = _
  rw [decode_jsMkval hw, signExtend_signExtend _ (by omega), BitVec.signExtend_eq]

theorem checkJsValue_inline_round_trip_int32 :
    5 ≤ 32 ∧ (let L := Layout.checkJsValue 32 (fun _ => 0)
    L.decode (L.encode (.inline .int 0x08000000)) =
      some (.inline .int (((0x08000000 : BitVec 32).signExtend (32 - 4)).signExtend 32)) ∧
    (36 ≤ 32 →
      L.decode (L.encode (.inline .int 0x08000000)) = some (.inline .int 0x08000000))) :=
  ⟨by decide, checkJsValue_inline_round_trip (by decide) _ .int 0x08000000⟩

/-- The payload `2^27` comes back as `-2^27` with 32-bit pointers. -/
example : ((0x08000000 : BitVec 32).signExtend (32 - 4)).signExtend 32 = 0xF8000000 := by decide

end QuickJs
