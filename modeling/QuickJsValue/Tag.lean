import QuickJsValue.Float64

/-!
# The tag space and the logical value

The tag enum of `quickjs.h`. Tags are C `int`s, so they are `BitVec 32` here, read as signed where
the header compares them as `int`. The reference-counted kinds are the tags below zero and
`JS_TAG_FLOAT64` is the largest tag: every tag of the enum but that one lies in
`[JS_TAG_FIRST, JS_TAG_SHORT_BIG_INT]`, which is the window `NonFloatTag` names.

`Logical` is the value of the spec's data model before any layout chooses its bits: a double given
by its 64-bit pattern, a heap kind with a pointer, or an inline kind with a 32-bit payload. Its
functions say what each query of the header is for; `Refinement.lean` proves that the header
computes them in both layouts that run.
-/

namespace QuickJs

def jsTagFirst : BitVec 32 := -9
def jsTagBigInt : BitVec 32 := -9
def jsTagSymbol : BitVec 32 := -8
def jsTagString : BitVec 32 := -7
def jsTagModule : BitVec 32 := -3
def jsTagFunctionBytecode : BitVec 32 := -2
def jsTagObject : BitVec 32 := -1
def jsTagInt : BitVec 32 := 0
def jsTagBool : BitVec 32 := 1
def jsTagNull : BitVec 32 := 2
def jsTagUndefined : BitVec 32 := 3
def jsTagUninitialized : BitVec 32 := 4
def jsTagCatchOffset : BitVec 32 := 5
def jsTagException : BitVec 32 := 6
def jsTagShortBigInt : BitVec 32 := 7
def jsTagFloat64 : BitVec 32 := 8

/-- `INT32_MIN` and `INT32_MAX` of `<stdint.h>`, as the integers C compares against. -/
def int32Min : Int := -2147483648
def int32Max : Int := 2147483647

/-- The tags `JS_TAG_FIRST` to `JS_TAG_SHORT_BIG_INT`: every tag of the enum but
`JS_TAG_FLOAT64`, with the three unused values between `JS_TAG_STRING` and `JS_TAG_MODULE`. -/
def NonFloatTag (t : BitVec 32) : Prop :=
  jsTagFirst.toInt ≤ t.toInt ∧ t.toInt ≤ jsTagShortBigInt.toInt

instance : DecidablePred NonFloatTag := fun _ => inferInstanceAs (Decidable (_ ∧ _))

/-- The window as the NaN-boxed `JS_TAG_IS_FLOAT64` tests it: `t + 9` is below `17` as an
unsigned 32-bit number. -/
theorem nonFloatTag_iff (t : BitVec 32) : NonFloatTag t ↔ (t.toNat + 9) % 2 ^ 32 < 17 := by
  have ht := t.isLt
  rw [NonFloatTag, show jsTagFirst.toInt = -9 by decide, show jsTagShortBigInt.toInt = 7 by decide,
    BitVec.toInt_eq_toNat_cond]
  split <;> omega

/-- Converting an `int` to `int64_t` or `uint64_t` keeps its 32 bits in the low word. -/
theorem setWidth_signExtend (t : BitVec 32) : (t.signExtend 64).setWidth 32 = t := by
  ext i
  have := i.isLt
  simp [BitVec.getLsbD_signExtend]
  omega

theorem toNat_signExtend_mod (t : BitVec 32) : (t.signExtend 64).toNat % 2 ^ 32 = t.toNat := by
  have h := congrArg BitVec.toNat (setWidth_signExtend t)
  rwa [BitVec.toNat_setWidth] at h

theorem ne_jsTagFloat64_of_nonFloatTag {t : BitVec 32} (ht : NonFloatTag t) :
    t ≠ jsTagFloat64 := by
  rintro rfl; exact absurd ht (by decide)

/-! ### Kinds -/

/-- The six kinds whose values point to a heap object that carries a reference count. -/
inductive HeapTag where
  | bigInt | symbol | string | module | functionBytecode | object
  deriving DecidableEq, Repr

/-- The eight kinds other than float64 that a value holds inline, with a 32-bit payload. -/
inductive InlineTag where
  | int | bool | null | undefined | uninitialized | catchOffset | exception | shortBigInt
  deriving DecidableEq, Repr

def HeapTag.tag : HeapTag → BitVec 32
  | .bigInt => jsTagBigInt
  | .symbol => jsTagSymbol
  | .string => jsTagString
  | .module => jsTagModule
  | .functionBytecode => jsTagFunctionBytecode
  | .object => jsTagObject

def InlineTag.tag : InlineTag → BitVec 32
  | .int => jsTagInt
  | .bool => jsTagBool
  | .null => jsTagNull
  | .undefined => jsTagUndefined
  | .uninitialized => jsTagUninitialized
  | .catchOffset => jsTagCatchOffset
  | .exception => jsTagException
  | .shortBigInt => jsTagShortBigInt

/-- A heap tag is one of the nine values `2^32 - 9 .. 2^32 - 1` of the unsigned word. -/
theorem HeapTag.tag_toNat (t : HeapTag) : 2 ^ 32 - 9 ≤ t.tag.toNat := by
  cases t <;> decide

/-- An inline tag is one of `0 .. 7`. -/
theorem InlineTag.tag_toNat (t : InlineTag) : t.tag.toNat ≤ 7 := by
  cases t <;> decide

theorem HeapTag.nonFloatTag (t : HeapTag) : NonFloatTag t.tag := by
  rw [nonFloatTag_iff]; have := t.tag_toNat; have := t.tag.isLt; omega

theorem InlineTag.nonFloatTag (t : InlineTag) : NonFloatTag t.tag := by
  rw [nonFloatTag_iff]; have := t.tag_toNat; omega

/-! ### The logical value -/

/-- A value as the spec's data model has it, a kind with its payload, before a layout encodes
it. Pointers are `ptrBits` wide, which is what separates the layouts' heap payloads. -/
inductive Logical (ptrBits : Nat) where
  | float64 (d : BitVec 64)
  | heap (t : HeapTag) (p : BitVec ptrBits)
  | inline (t : InlineTag) (i : BitVec 32)
  deriving DecidableEq, Repr

namespace Logical

variable {w : Nat}

/-- The tag a value of this kind carries, `JS_TAG_FLOAT64` for every double. -/
def kind : Logical w → BitVec 32
  | .float64 _ => jsTagFloat64
  | .heap t _ => t.tag
  | .inline t _ => t.tag

/-- Whether the value owns a reference to a heap object. -/
def isHeap : Logical w → Bool
  | .heap _ _ => true
  | _ => false

/-- Whether the value is a double whose bits are a NaN. -/
def isNan : Logical w → Bool
  | .float64 d => Float64.isNan d
  | _ => false

end Logical

end QuickJs
