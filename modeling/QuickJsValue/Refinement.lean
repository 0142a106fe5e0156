import QuickJsValue.Header
import QuickJsValue.Rounding

/-!
# Both layouts refine the logical value

`Layout.encode` builds a logical value with the constructor the header has for its kind:
`__JS_NewFloat64` for a double, `JS_MKPTR` for a heap kind, `JS_MKVAL` for an inline kind. Over a
lawful layout every query of the header then answers what the logical value says, and the proofs
go through one case split, `getTag_encode`: the raw tag of an encoded value is the kind itself, or
the value is a double and its tag is a float tag. Nothing else about the layout is used, so the
classification holds in the NaN-boxed and the struct build alike. A NaN is `Float64.isNan`, the
mask test the header applies, which `Float64.isNan_iff_fields` shows is IEEE 754's NaN.

The last section is about the NaN-boxed `int` arithmetic: `JS_IsNumber` computes
`tag - JS_TAG_FIRST` as a signed `int`, and the range analysis of `NanBoxing.lean` keeps every tag
the header builds at least nine below `INT32_MAX`.
-/

namespace QuickJs

namespace Layout

/-- A logical value as the header builds it. -/
def encode (L : Layout) : Logical L.ptrBits → L.JsValue
  | .float64 d => L.jsNewFloat64Raw d
  | .heap t p => L.jsMkptr t.tag p
  | .inline t i => L.jsMkval t.tag i

namespace Lawful

variable {L : Layout} (hL : L.Lawful)
include hL

theorem not_nonFloatTag_of_tagIsFloat64 {tag : BitVec 32} (htag : L.jsTagIsFloat64 tag = true) :
    ¬NonFloatTag tag := fun hwin => by
  rw [hL.tagIsFloat64_of_nonFloat tag hwin] at htag; exact absurd htag (by decide)

/-- What one encoded value's tag can be: the kind, or a float tag on a double. -/
theorem getTag_encode (x : Logical L.ptrBits) :
    (x.kind = jsTagFloat64 ∧ L.jsTagIsFloat64 (L.jsValueGetTag (L.encode x)) = true) ∨
      (NonFloatTag x.kind ∧ L.jsValueGetTag (L.encode x) = x.kind) := by
  cases x with
  | float64 d => exact .inl ⟨rfl, hL.tagIsFloat64_newFloat64 d⟩
  | heap t p => exact .inr ⟨t.nonFloatTag, hL.getTag_mkptr _ _⟩
  | inline t i => exact .inr ⟨t.nonFloatTag, hL.getTag_mkval _ _⟩

theorem jsValueGetNormTag_encode (x : Logical L.ptrBits) :
    L.jsValueGetNormTag (L.encode x) = x.kind := by
  rw [hL.getNormTag_eq]
  rcases hL.getTag_encode x with ⟨hkind, hfloat⟩ | ⟨hwin, htag⟩
  · rw [if_pos hfloat, hkind]
  · rw [htag, if_neg (by rw [hL.tagIsFloat64_of_nonFloat _ hwin]; decide)]

theorem jsValueTagIs_encode {t : BitVec 32} (ht : NonFloatTag t) (x : Logical L.ptrBits) :
    L.jsValueTagIs t (L.encode x) = (x.kind == t) := by
  unfold jsValueTagIs
  rcases hL.getTag_encode x with ⟨hkind, hfloat⟩ | ⟨-, htag⟩
  · have hraw : L.jsValueGetTag (L.encode x) ≠ t := fun h =>
      hL.not_nonFloatTag_of_tagIsFloat64 hfloat (h ▸ ht)
    rw [hkind, beq_false_of_ne hraw, beq_false_of_ne (ne_jsTagFloat64_of_nonFloatTag ht).symm]
  · rw [htag]

theorem jsIsNumber_encode (x : Logical L.ptrBits) :
    L.jsIsNumber (L.encode x) = (x.kind == jsTagInt || x.kind == jsTagFloat64) := by
  dsimp only [jsIsNumber]
  rcases hL.getTag_encode x with ⟨hkind, hfloat⟩ | ⟨hwin, htag⟩
  · rw [hfloat, hkind, Bool.or_true]; decide
  · rw [htag, hL.tagIsFloat64_of_nonFloat _ hwin,
      beq_false_of_ne (ne_jsTagFloat64_of_nonFloatTag hwin)]

theorem jsValueHasRefCount_of_tagIsFloat64 {v : L.JsValue}
    (hv : L.jsTagIsFloat64 (L.jsValueGetTag v) = true) : L.jsValueHasRefCount v = false := by
  have hout := hL.not_nonFloatTag_of_tagIsFloat64 hv
  rw [nonFloatTag_iff] at hout
  rw [← Bool.not_eq_true, jsValueHasRefCount_iff]
  have := (L.jsValueGetTag v).isLt
  omega

theorem jsValueHasRefCount_encode (x : Logical L.ptrBits) :
    L.jsValueHasRefCount (L.encode x) = x.isHeap := by
  cases x with
  | float64 d => exact hL.jsValueHasRefCount_of_tagIsFloat64 (hL.tagIsFloat64_newFloat64 d)
  | heap t p =>
    show L.jsValueHasRefCount (L.jsMkptr t.tag p) = true
    rw [jsValueHasRefCount_iff, hL.getTag_mkptr]
    exact t.tag_toNat
  | inline t i =>
    show L.jsValueHasRefCount (L.jsMkval t.tag i) = false
    rw [← Bool.not_eq_true, jsValueHasRefCount_iff, hL.getTag_mkval]
    have := t.tag_toNat
    omega

theorem jsValueIsNan_encode (x : Logical L.ptrBits) :
    L.jsValueIsNan (L.encode x) = x.isNan := by
  cases x with
  | float64 d => exact hL.isNan_newFloat64 d
  | heap t p => exact hL.isNan_of_nonFloat _ ((hL.getTag_mkptr _ _).symm ▸ t.nonFloatTag)
  | inline t i => exact hL.isNan_of_nonFloat _ ((hL.getTag_mkval _ _).symm ▸ t.nonFloatTag)

end Lawful

end Layout

/-! ### Classification and read-back in both builds -/

/-- In both builds, every tag query of the header answers by the logical kind of the value the
header built: the normalized tag is the kind, a double of any bits included, and each `JS_Is*`
test, `JS_VALUE_HAS_REF_COUNT` and `JS_VALUE_IS_NAN` hold exactly of their kinds; the last of
doubles whose exponent is all ones and whose fraction is nonzero (`Float64.isNan_iff_fields`). -/
theorem classification_exact (b : Build) (x : Logical b.layout.ptrBits) :
    let L := b.layout
    let v := L.encode x
    L.jsValueGetNormTag v = x.kind ∧
    L.jsValueHasRefCount v = x.isHeap ∧
    L.jsIsNumber v = (x.kind == jsTagInt || x.kind == jsTagFloat64) ∧
    L.jsIsBigInt v = (x.kind == jsTagBigInt || x.kind == jsTagShortBigInt) ∧
    L.jsIsBool v = (x.kind == jsTagBool) ∧
    L.jsIsNull v = (x.kind == jsTagNull) ∧
    L.jsIsUndefined v = (x.kind == jsTagUndefined) ∧
    L.jsIsException v = (x.kind == jsTagException) ∧
    L.jsIsUninitialized v = (x.kind == jsTagUninitialized) ∧
    L.jsIsString v = (x.kind == jsTagString) ∧
    L.jsIsSymbol v = (x.kind == jsTagSymbol) ∧
    L.jsIsObject v = (x.kind == jsTagObject) ∧
    L.jsIsModule v = (x.kind == jsTagModule) ∧
    L.jsValueIsNan v = x.isNan := by
  have hL := b.lawful
  have hBigInt := hL.jsValueTagIs_encode (show NonFloatTag jsTagBigInt by decide) x
  have hShort := hL.jsValueTagIs_encode (show NonFloatTag jsTagShortBigInt by decide) x
  refine ⟨hL.jsValueGetNormTag_encode x, hL.jsValueHasRefCount_encode x, hL.jsIsNumber_encode x,
    by rw [Layout.jsIsBigInt_eq, hBigInt, hShort], hL.jsValueTagIs_encode (by decide) x,
    hL.jsValueTagIs_encode (by decide) x, hL.jsValueTagIs_encode (by decide) x,
    hL.jsValueTagIs_encode (by decide) x, hL.jsValueTagIs_encode (by decide) x,
    hL.jsValueTagIs_encode (by decide) x, hL.jsValueTagIs_encode (by decide) x,
    hL.jsValueTagIs_encode (by decide) x, hL.jsValueTagIs_encode (by decide) x,
    hL.jsValueIsNan_encode x⟩

/-- Decoding undoes encoding. A double that is not a NaN (`Float64.isNan_iff_fields`: its exponent
is not all ones, or its fraction is zero) comes back with the same bits in both builds; every NaN
is stored by the NaN-boxed build as the one word `JS_NAN`, which decodes to `0x7ff8000000000000`,
and comes back from the struct build as a NaN. Storing a decoded double again gives the same
word. The tag and payload of `JS_MKVAL` come back for every tag, and those of
`JS_MKPTR` for every heap tag. -/
theorem encoding_round_trip :
    (∀ (b : Build) (d : BitVec 64), Float64.isNan d = false →
      b.layout.jsValueGetFloat64 (b.layout.jsNewFloat64Raw d) = d) ∧
    (∀ d : BitVec 64, Float64.isNan d = true →
      NanBoxing.jsNewFloat64Raw d = NanBoxing.jsNan ∧
        NanBoxing.jsValueGetFloat64 (NanBoxing.jsNewFloat64Raw d) = 0x7ff8000000000000) ∧
    (∀ d : BitVec 64, Float64.isNan d = true →
      Float64.isNan (Struct.jsValueGetFloat64 (Struct.jsNewFloat64Raw d)) = true) ∧
    (∀ d : BitVec 64, NanBoxing.jsNewFloat64Raw
      (NanBoxing.jsValueGetFloat64 (NanBoxing.jsNewFloat64Raw d)) = NanBoxing.jsNewFloat64Raw d) ∧
    (∀ (b : Build) (t i : BitVec 32),
      b.layout.jsValueGetTag (b.layout.jsMkval t i) = t ∧
        b.layout.jsValueGetInt (b.layout.jsMkval t i) = i ∧
        b.layout.jsValueGetBool (b.layout.jsMkval t i) = i) ∧
    (∀ (b : Build) (t : HeapTag) (p : BitVec b.layout.ptrBits),
      b.layout.jsValueGetTag (b.layout.jsMkptr t.tag p) = t.tag ∧
        b.layout.jsValueGetPtr (b.layout.jsMkptr t.tag p) = p) :=
  ⟨fun b _ hd => b.lawful.getFloat64_newFloat64 _ hd,
    fun _ hd => ⟨NanBoxing.jsNewFloat64Raw_of_isNan hd,
      (NanBoxing.jsNewFloat64Raw_of_isNan hd).symm ▸ NanBoxing.jsValueGetFloat64_jsNan⟩,
    fun d hd => (Struct.isNan_jsValueGetFloat64_jsNewFloat64Raw d).trans hd,
    NanBoxing.jsNewFloat64Raw_jsValueGetFloat64,
    fun b t i =>
      ⟨b.lawful.getTag_mkval t i, b.lawful.getInt_mkval t i, b.lawful.getBool_mkval t i⟩,
    fun b t p => ⟨b.lawful.getTag_mkptr t.tag p, b.lawful.getPtr_mkptr t.tag p⟩⟩

/-! ### No overflow in the NaN-boxed `int` tag arithmetic -/

/-- The `int` subtraction `tag - JS_TAG_FIRST` of `JS_TAG_IS_FLOAT64` has a result in `int`, so
C defines it. -/
def TagSubFirstDefined (tag : BitVec 32) : Prop :=
  int32Min ≤ tag.toInt - jsTagFirst.toInt ∧ tag.toInt - jsTagFirst.toInt ≤ int32Max

/-- The subtraction overflows exactly on the tags `INT32_MAX - 8 .. INT32_MAX`. -/
theorem tagSubFirstDefined_iff (tag : BitVec 32) :
    TagSubFirstDefined tag ↔ tag.toInt < int32Max - 8 := by
  have := tag.isLt
  rw [TagSubFirstDefined, show jsTagFirst.toInt = -9 by decide, int32Min, int32Max,
    BitVec.toInt_eq_toNat_cond]
  split <;> omega

theorem tagSubFirstDefined_of_toNat {tag : BitVec 32}
    (htag : ¬(2 ^ 31 - 9 ≤ tag.toNat ∧ tag.toNat < 2 ^ 31)) : TagSubFirstDefined tag := by
  rw [tagSubFirstDefined_iff, BitVec.toInt_eq_toNat_cond, int32Max]
  split <;> omega

/-- Every value the NaN-boxed header builds, a double of any bits, `JS_MKVAL` of a tag of the
window or `JS_MKPTR` of a heap tag, has a tag on which `JS_IsNumber` and
`JS_VALUE_IS_BOTH_FLOAT` compute `tag - JS_TAG_FIRST` without overflow: no such tag lies in
`INT32_MAX - 8 .. INT32_MAX`. -/
theorem tagSubFirst_no_overflow :
    (∀ d : BitVec 64,
      TagSubFirstDefined (NanBoxing.jsValueGetTag (NanBoxing.jsNewFloat64Raw d)) ∧
        (NanBoxing.jsValueGetTag (NanBoxing.jsNewFloat64Raw d)).toInt < int32Max - 8) ∧
    (∀ t i : BitVec 32, NonFloatTag t →
      TagSubFirstDefined (NanBoxing.jsValueGetTag (NanBoxing.jsMkval t i)) ∧
        (NanBoxing.jsValueGetTag (NanBoxing.jsMkval t i)).toInt < int32Max - 8) ∧
    (∀ (t : HeapTag) (p : BitVec 32),
      TagSubFirstDefined (NanBoxing.jsValueGetTag (NanBoxing.jsMkptr t.tag p)) ∧
        (NanBoxing.jsValueGetTag (NanBoxing.jsMkptr t.tag p)).toInt < int32Max - 8) := by
  have hwindow : ∀ t : BitVec 32, NonFloatTag t → TagSubFirstDefined t := fun t ht =>
    tagSubFirstDefined_of_toNat (by rw [nonFloatTag_iff] at ht; omega)
  refine ⟨fun d => ?_, fun t i ht => ?_, fun t p => ?_⟩
  · have hrange := NanBoxing.jsValueGetTag_jsNewFloat64Raw d
    have hdef : TagSubFirstDefined (NanBoxing.jsValueGetTag (NanBoxing.jsNewFloat64Raw d)) := by
      apply tagSubFirstDefined_of_toNat
      cases hd : Float64.isNan d
      · have := (hrange.2 hd).2; omega
      · rw [hrange.1 hd]; decide
    exact ⟨hdef, (tagSubFirstDefined_iff _).mp hdef⟩
  · rw [NanBoxing.jsValueGetTag_jsMkval]
    exact ⟨hwindow t ht, (tagSubFirstDefined_iff t).mp (hwindow t ht)⟩
  · rw [NanBoxing.jsMkptr_eq_jsMkval, NanBoxing.jsValueGetTag_jsMkval]
    exact ⟨hwindow _ t.nonFloatTag, (tagSubFirstDefined_iff _).mp (hwindow _ t.nonFloatTag)⟩

end QuickJs
