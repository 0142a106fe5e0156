import QuickJsValue.NanBoxing
import QuickJsValue.Struct

/-!
# One header over two layouts

`quickjs.h` defines the layout-dependent part of the value core three times, under the same
names, and writes the rest once over those names: `JS_IsNumber`, `JS_NewInt64` or
`JS_VALUE_HAS_REF_COUNT` are the same text in every build. `Layout` is that interface, the
primitives each build defines, and `Header.lean` writes the shared text once over it.

`Layout.Lawful` is what the shared text relies on: the accessors read back what the
constructors stored, a double is always tagged as a float, and a tag of the window never is.
Both layouts that run are lawful, the NaN-boxed one because of the range analysis of
`NanBoxing.jsValueGetTag_jsNewFloat64Raw`. The `JS_CHECK_JSVALUE` build, which only checks
ownership at compile time, is a layout too, `Layout.checkJsValue`, and `CheckJsValue.lean` shows
that it is not lawful, so it is not a `Build`.
-/

namespace QuickJs

/-- What one layout of `quickjs.h` defines for itself. Pointers are `ptrBits` wide and
`__JS_NewShortBigInt` takes a `shortBigIntBits`-bit integer. -/
structure Layout where
  JsValue : Type
  ptrBits : Nat
  shortBigIntBits : Nat
  jsValueGetTag : JsValue → BitVec 32
  jsValueGetNormTag : JsValue → BitVec 32
  jsValueGetInt : JsValue → BitVec 32
  jsValueGetBool : JsValue → BitVec 32
  jsValueGetShortBigInt : JsValue → BitVec 32
  jsValueGetFloat64 : JsValue → BitVec 64
  jsValueGetPtr : JsValue → BitVec ptrBits
  jsMkval : BitVec 32 → BitVec 32 → JsValue
  jsMkptr : BitVec 32 → BitVec ptrBits → JsValue
  jsNan : JsValue
  jsNewFloat64Raw : BitVec 64 → JsValue
  jsNewShortBigIntRaw : BitVec shortBigIntBits → JsValue
  jsTagIsFloat64 : BitVec 32 → Bool
  jsValueIsNan : JsValue → Bool

namespace Layout

/-- The laws the shared part of the header relies on. -/
structure Lawful (L : Layout) : Prop where
  getTag_mkval : ∀ tag val, L.jsValueGetTag (L.jsMkval tag val) = tag
  getInt_mkval : ∀ tag val, L.jsValueGetInt (L.jsMkval tag val) = val
  getBool_mkval : ∀ tag val, L.jsValueGetBool (L.jsMkval tag val) = val
  getShortBigInt_mkval : ∀ tag val, L.jsValueGetShortBigInt (L.jsMkval tag val) = val
  newShortBigInt_eq : ∀ d, L.jsNewShortBigIntRaw d = L.jsMkval jsTagShortBigInt (d.setWidth 32)
  getTag_mkptr : ∀ tag ptr, L.jsValueGetTag (L.jsMkptr tag ptr) = tag
  getPtr_mkptr : ∀ tag ptr, L.jsValueGetPtr (L.jsMkptr tag ptr) = ptr
  tagIsFloat64_of_nonFloat : ∀ tag, NonFloatTag tag → L.jsTagIsFloat64 tag = false
  tagIsFloat64_newFloat64 : ∀ d, L.jsTagIsFloat64 (L.jsValueGetTag (L.jsNewFloat64Raw d)) = true
  getNormTag_eq : ∀ v, L.jsValueGetNormTag v =
    if L.jsTagIsFloat64 (L.jsValueGetTag v) then jsTagFloat64 else L.jsValueGetTag v
  isNan_newFloat64 : ∀ d, L.jsValueIsNan (L.jsNewFloat64Raw d) = Float64.isNan d
  isNan_of_nonFloat : ∀ v, NonFloatTag (L.jsValueGetTag v) → L.jsValueIsNan v = false
  getFloat64_newFloat64 :
    ∀ d, Float64.isNan d = false → L.jsValueGetFloat64 (L.jsNewFloat64Raw d) = d
  isNan_getFloat64_newFloat64 : ∀ d,
    Float64.isNan (L.jsValueGetFloat64 (L.jsNewFloat64Raw d)) = Float64.isNan d

/-- `JS_NAN_BOXING`: the layout of targets with `INTPTR_MAX < INT64_MAX`. -/
def nanBoxing : Layout where
  JsValue := NanBoxing.JsValue
  ptrBits := 32
  shortBigIntBits := 32
  jsValueGetTag := NanBoxing.jsValueGetTag
  jsValueGetNormTag := NanBoxing.jsValueGetNormTag
  jsValueGetInt := NanBoxing.jsValueGetInt
  jsValueGetBool := NanBoxing.jsValueGetBool
  jsValueGetShortBigInt := NanBoxing.jsValueGetShortBigInt
  jsValueGetFloat64 := NanBoxing.jsValueGetFloat64
  jsValueGetPtr := NanBoxing.jsValueGetPtr
  jsMkval := NanBoxing.jsMkval
  jsMkptr := NanBoxing.jsMkptr
  jsNan := NanBoxing.jsNan
  jsNewFloat64Raw := NanBoxing.jsNewFloat64Raw
  jsNewShortBigIntRaw := NanBoxing.jsNewShortBigIntRaw
  jsTagIsFloat64 := NanBoxing.jsTagIsFloat64
  jsValueIsNan := NanBoxing.jsValueIsNan

/-- The struct layout, on targets with 64-bit pointers. -/
def struct : Layout where
  JsValue := Struct.JsValue
  ptrBits := 64
  shortBigIntBits := 64
  jsValueGetTag := Struct.jsValueGetTag
  jsValueGetNormTag := Struct.jsValueGetNormTag
  jsValueGetInt := Struct.jsValueGetInt
  jsValueGetBool := Struct.jsValueGetBool
  jsValueGetShortBigInt := Struct.jsValueGetShortBigInt
  jsValueGetFloat64 := Struct.jsValueGetFloat64
  jsValueGetPtr := Struct.jsValueGetPtr
  jsMkval := Struct.jsMkval
  jsMkptr := Struct.jsMkptr
  jsNan := Struct.jsNan
  jsNewFloat64Raw := Struct.jsNewFloat64Raw
  jsNewShortBigIntRaw := Struct.jsNewShortBigIntRaw
  jsTagIsFloat64 := Struct.jsTagIsFloat64
  jsValueIsNan := Struct.jsValueIsNan

/-! ### The NaN-boxed layout is lawful -/

theorem nanBoxing_lawful : nanBoxing.Lawful where
  getTag_mkval := NanBoxing.jsValueGetTag_jsMkval
  getInt_mkval := NanBoxing.setWidth_jsMkval
  getBool_mkval := NanBoxing.setWidth_jsMkval
  getShortBigInt_mkval := NanBoxing.setWidth_jsMkval
  newShortBigInt_eq := NanBoxing.jsNewShortBigIntRaw_eq
  getTag_mkptr := NanBoxing.jsValueGetTag_jsMkval
  getPtr_mkptr := NanBoxing.setWidth_jsMkval
  tagIsFloat64_of_nonFloat _ := NanBoxing.jsTagIsFloat64_of_nonFloatTag
  tagIsFloat64_newFloat64 := NanBoxing.jsTagIsFloat64_jsNewFloat64Raw
  getNormTag_eq _ := rfl
  isNan_newFloat64 := NanBoxing.jsValueIsNan_jsNewFloat64Raw
  isNan_of_nonFloat _ := NanBoxing.jsValueIsNan_of_nonFloatTag
  getFloat64_newFloat64 _ := NanBoxing.jsValueGetFloat64_jsNewFloat64Raw
  isNan_getFloat64_newFloat64 := NanBoxing.isNan_jsValueGetFloat64_jsNewFloat64Raw

/-! ### The struct layout is lawful -/

theorem struct_lawful : struct.Lawful where
  getTag_mkval := Struct.jsValueGetTag_jsMkval
  getInt_mkval _ := Struct.JsValueUnion.int32_ofInt32
  getBool_mkval _ := Struct.JsValueUnion.int32_ofInt32
  getShortBigInt_mkval _ := Struct.JsValueUnion.int32_ofInt32
  newShortBigInt_eq _ := rfl
  getTag_mkptr := Struct.jsValueGetTag_jsMkptr
  getPtr_mkptr _ _ := rfl
  tagIsFloat64_of_nonFloat _ := Struct.jsTagIsFloat64_of_nonFloatTag
  tagIsFloat64_newFloat64 := Struct.jsTagIsFloat64_jsNewFloat64Raw
  getNormTag_eq := Struct.jsValueGetNormTag_eq
  isNan_newFloat64 := Struct.jsValueIsNan_jsNewFloat64Raw
  isNan_of_nonFloat _ := Struct.jsValueIsNan_of_nonFloatTag
  getFloat64_newFloat64 _ _ := rfl
  isNan_getFloat64_newFloat64 := Struct.isNan_jsValueGetFloat64_jsNewFloat64Raw

end Layout

/-- The two builds of `quickjs.h` that produce running code. -/
inductive Build where
  | nanBoxing
  | struct
  deriving DecidableEq, Repr

/-- The layout a build compiles. -/
def Build.layout : Build → Layout
  | .nanBoxing => Layout.nanBoxing
  | .struct => Layout.struct

theorem Build.lawful : (b : Build) → b.layout.Lawful
  | .nanBoxing => Layout.nanBoxing_lawful
  | .struct => Layout.struct_lawful

end QuickJs
