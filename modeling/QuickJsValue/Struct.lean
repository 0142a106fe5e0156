import QuickJsValue.Tag

/-!
# The struct layout

The layout of every target whose pointers are 64 bits: an explicit `int64_t` tag beside a
`JSValueUnion` payload. The union is modelled as its eight bytes, read little-endian, so `ptr`
and `float64` are the whole word and `int32` and `short_big_int` its low half. A store of a
32-bit member leaves the other four bytes unspecified in C; they are zero here, and nothing in the
header reads them back through another member.

A double is stored as it is, so this layout has no NaN normalization and no tag arithmetic:
`JS_TAG_IS_FLOAT64` is a comparison with `JS_TAG_FLOAT64` and the normalized tag is the tag. The
one place the layout loses information is `__JS_NewShortBigInt`, whose `int64_t` parameter goes
into the `int32_t` member `short_big_int`.
-/

namespace QuickJs

namespace Struct

/-- `union JSValueUnion { int32_t int32; double float64; void *ptr; int32_t short_big_int; }`. -/
structure JsValueUnion where
  bytes : BitVec 64
  deriving DecidableEq, Repr

namespace JsValueUnion

/-- `(JSValueUnion){ .int32 = val }`. -/
def ofInt32 (val : BitVec 32) : JsValueUnion := ⟨val.setWidth 64⟩

/-- `(JSValueUnion){ .float64 = d }`, or an assignment to the member. -/
def ofFloat64 (d : BitVec 64) : JsValueUnion := ⟨d⟩

/-- `(JSValueUnion){ .ptr = p }`. -/
def ofPtr (p : BitVec 64) : JsValueUnion := ⟨p⟩

/-- An assignment to the member `short_big_int`. -/
def ofShortBigInt (d : BitVec 32) : JsValueUnion := ⟨d.setWidth 64⟩

def int32 (u : JsValueUnion) : BitVec 32 := u.bytes.setWidth 32
def float64 (u : JsValueUnion) : BitVec 64 := u.bytes
def ptr (u : JsValueUnion) : BitVec 64 := u.bytes
def shortBigInt (u : JsValueUnion) : BitVec 32 := u.bytes.setWidth 32

@[simp] theorem int32_ofInt32 (val : BitVec 32) : (ofInt32 val).int32 = val := by
  rw [int32, ofInt32, BitVec.setWidth_setWidth_of_le val (by decide), BitVec.setWidth_eq]

@[simp] theorem shortBigInt_ofShortBigInt (d : BitVec 32) : (ofShortBigInt d).shortBigInt = d :=
  int32_ofInt32 d

@[simp] theorem float64_ofFloat64 (d : BitVec 64) : (ofFloat64 d).float64 = d := rfl

@[simp] theorem ptr_ofPtr (p : BitVec 64) : (ofPtr p).ptr = p := rfl

end JsValueUnion

/-- `struct JSValue { JSValueUnion u; int64_t tag; }`. -/
structure JsValue where
  u : JsValueUnion
  tag : BitVec 64
  deriving DecidableEq, Repr

/-- `JS_VALUE_GET_TAG`: `((int32_t)(v).tag)`. -/
def jsValueGetTag (v : JsValue) : BitVec 32 := v.tag.setWidth 32

/-- `JS_VALUE_GET_NORM_TAG`: the same as `JS_VALUE_GET_TAG`. -/
def jsValueGetNormTag (v : JsValue) : BitVec 32 := jsValueGetTag v

/-- `JS_VALUE_GET_INT`: `((v).u.int32)`. -/
def jsValueGetInt (v : JsValue) : BitVec 32 := v.u.int32

/-- `JS_VALUE_GET_BOOL`: `((v).u.int32)`. -/
def jsValueGetBool (v : JsValue) : BitVec 32 := v.u.int32

/-- `JS_VALUE_GET_FLOAT64`: `((v).u.float64)`. -/
def jsValueGetFloat64 (v : JsValue) : BitVec 64 := v.u.float64

/-- `JS_VALUE_GET_SHORT_BIG_INT`: `((v).u.short_big_int)`. -/
def jsValueGetShortBigInt (v : JsValue) : BitVec 32 := v.u.shortBigInt

/-- `JS_VALUE_GET_PTR`: `((v).u.ptr)`. -/
def jsValueGetPtr (v : JsValue) : BitVec 64 := v.u.ptr

/-- `JS_MKPTR`: `(JSValue){ (JSValueUnion){ .ptr = p }, tag }`, the `int` tag widened. -/
def jsMkptr (tag : BitVec 32) (p : BitVec 64) : JsValue := ⟨.ofPtr p, tag.signExtend 64⟩

/-- `JS_MKVAL`: `(JSValue){ (JSValueUnion){ .int32 = val }, tag }`. -/
def jsMkval (tag val : BitVec 32) : JsValue := ⟨.ofInt32 val, tag.signExtend 64⟩

/-- `JS_NAN`: `(JSValue){ (JSValueUnion){ .float64 = NAN }, JS_TAG_FLOAT64 }`. -/
def jsNan : JsValue := ⟨.ofFloat64 Float64.nan, jsTagFloat64.signExtend 64⟩

/-- `JS_TAG_IS_FLOAT64`: `((unsigned)(tag) == JS_TAG_FLOAT64)`. -/
def jsTagIsFloat64 (tag : BitVec 32) : Bool := tag == jsTagFloat64

/-- `__JS_NewFloat64`: the tag set to `JS_TAG_FLOAT64` and the double stored as it is. -/
def jsNewFloat64Raw (d : BitVec 64) : JsValue := ⟨.ofFloat64 d, jsTagFloat64.signExtend 64⟩

/-- `__JS_NewShortBigInt`: its parameter is an `int64_t`, stored by `v.u.short_big_int = d`
into an `int32_t` member, a conversion that keeps the low 32 bits on every compiler the header
supports. -/
def jsNewShortBigIntRaw (d : BitVec 64) : JsValue :=
  ⟨.ofShortBigInt (d.setWidth 32), jsTagShortBigInt.signExtend 64⟩

/-- `JS_VALUE_IS_NAN`: false unless the 64-bit tag is `JS_TAG_FLOAT64`, then the NaN test on
the stored bits. -/
def jsValueIsNan (v : JsValue) : Bool :=
  if v.tag != jsTagFloat64.signExtend 64 then false else Float64.isNan v.u.float64

/-! ### Reading back what was stored -/

theorem jsValueGetTag_jsMkval (tag val : BitVec 32) : jsValueGetTag (jsMkval tag val) = tag :=
  setWidth_signExtend tag

theorem jsValueGetTag_jsMkptr (tag : BitVec 32) (p : BitVec 64) :
    jsValueGetTag (jsMkptr tag p) = tag :=
  setWidth_signExtend tag

theorem jsValueGetTag_jsNewFloat64Raw (d : BitVec 64) :
    jsValueGetTag (jsNewFloat64Raw d) = jsTagFloat64 :=
  setWidth_signExtend jsTagFloat64

theorem jsValueGetShortBigInt_jsNewShortBigIntRaw (d : BitVec 64) :
    jsValueGetShortBigInt (jsNewShortBigIntRaw d) = d.setWidth 32 :=
  JsValueUnion.shortBigInt_ofShortBigInt _

theorem jsTagIsFloat64_of_nonFloatTag {tag : BitVec 32} (htag : NonFloatTag tag) :
    jsTagIsFloat64 tag = false := by
  simpa [jsTagIsFloat64] using ne_jsTagFloat64_of_nonFloatTag htag

theorem jsTagIsFloat64_jsNewFloat64Raw (d : BitVec 64) :
    jsTagIsFloat64 (jsValueGetTag (jsNewFloat64Raw d)) = true := by
  simp [jsTagIsFloat64, jsValueGetTag_jsNewFloat64Raw]

theorem jsValueGetNormTag_eq (v : JsValue) : jsValueGetNormTag v =
    if jsTagIsFloat64 (jsValueGetTag v) then jsTagFloat64 else jsValueGetTag v := by
  by_cases h : jsValueGetTag v = jsTagFloat64 <;> simp [jsValueGetNormTag, jsTagIsFloat64, h]

/-- A value whose 32-bit tag is in the window has a 64-bit tag other than `JS_TAG_FLOAT64`. -/
theorem tag_ne_of_nonFloatTag {v : JsValue} (hv : NonFloatTag (jsValueGetTag v)) :
    v.tag ≠ jsTagFloat64.signExtend 64 := by
  intro htag
  rw [jsValueGetTag, htag, setWidth_signExtend] at hv
  exact absurd hv (by decide)

theorem jsValueIsNan_of_nonFloatTag {v : JsValue} (hv : NonFloatTag (jsValueGetTag v)) :
    jsValueIsNan v = false := by
  simp [jsValueIsNan, tag_ne_of_nonFloatTag hv]

theorem isNan_jsValueGetFloat64_jsNewFloat64Raw (d : BitVec 64) :
    Float64.isNan (jsValueGetFloat64 (jsNewFloat64Raw d)) = Float64.isNan d := rfl

theorem jsValueIsNan_jsNewFloat64Raw (d : BitVec 64) :
    jsValueIsNan (jsNewFloat64Raw d) = Float64.isNan d := by
  simp [jsValueIsNan, jsNewFloat64Raw]

end Struct

end QuickJs
