import QuickJsValue.Refinement

/-!
# Decoding

The spec's `decode(Value) -> (tag, payload)` is not one function of the header: the engine reads
a value by its normalized tag and then with the accessor of that kind. `Layout.decode` is that
reading. Over a lawful layout it undoes `encode` on every logical value but a NaN, which comes back
as a NaN. So two logical values share an encoding only if both are NaNs: the NaN-boxed build stores
every NaN as the one word `JS_NAN`, and the struct build keeps every payload, so its encoding is
injective. In the NaN-boxed build the converse holds as well: every word the engine can read is
the encoding of what it reads as, but the NaN words other than `JS_NAN`, which no constructor
produces.

The two-value tests `JS_VALUE_IS_BOTH_INT` and `JS_VALUE_IS_BOTH_FLOAT` read the raw tags only,
and they too answer by the kinds.
-/

namespace QuickJs

/-- The heap kind a tag stands for, if any. -/
def HeapTag.ofTag? (t : BitVec 32) : Option HeapTag :=
  [HeapTag.bigInt, .symbol, .string, .module, .functionBytecode, .object].find? (·.tag == t)

/-- The inline kind a tag stands for, if any. -/
def InlineTag.ofTag? (t : BitVec 32) : Option InlineTag :=
  [InlineTag.int, .bool, .null, .undefined, .uninitialized, .catchOffset, .exception,
    .shortBigInt].find? (·.tag == t)

theorem HeapTag.ofTag?_tag (t : HeapTag) : HeapTag.ofTag? t.tag = some t := by
  cases t <;> rfl

theorem HeapTag.ofTag?_inline (t : InlineTag) : HeapTag.ofTag? t.tag = none := by
  cases t <;> rfl

theorem InlineTag.ofTag?_tag (t : InlineTag) : InlineTag.ofTag? t.tag = some t := by
  cases t <;> rfl

theorem HeapTag.tag_of_ofTag? {t : BitVec 32} {k : HeapTag} (h : HeapTag.ofTag? t = some k) :
    k.tag = t := by
  have hk := List.find?_some h
  exact beq_iff_eq.mp hk

theorem InlineTag.tag_of_ofTag? {t : BitVec 32} {k : InlineTag}
    (h : InlineTag.ofTag? t = some k) : k.tag = t := by
  have hk := List.find?_some h
  exact beq_iff_eq.mp hk

theorem bitVec_or_eq_zero_iff {a b : BitVec 32} : a ||| b = 0 ↔ a = 0 ∧ b = 0 := by
  refine ⟨fun h => ⟨?_, ?_⟩, fun h => by rw [h.1, h.2]; rfl⟩ <;>
  · apply BitVec.eq_of_getLsbD_eq
    intro i
    have hbit := congrArg (fun x => x.getLsbD i) h
    simp only [BitVec.getLsbD_or, show (0 : BitVec 32) = 0#32 from rfl, BitVec.getLsbD_zero,
      Bool.or_eq_false_iff] at hbit ⊢
    simp [hbit]

namespace Layout

/-- A word read the way the engine reads it: the normalized tag, then the accessor of that kind;
`none` for a tag no kind has. -/
def decode (L : Layout) (v : L.JsValue) : Option (Logical L.ptrBits) :=
  let tag := L.jsValueGetNormTag v
  if tag = jsTagFloat64 then some (.float64 (L.jsValueGetFloat64 v))
  else
    match HeapTag.ofTag? tag with
    | some t => some (.heap t (L.jsValueGetPtr v))
    | none => (InlineTag.ofTag? tag).map fun t => .inline t (L.jsValueGetInt v)

namespace Lawful

variable {L : Layout} (hL : L.Lawful)
include hL

theorem decode_encode_float64 (d : BitVec 64) :
    L.decode (L.encode (.float64 d)) =
      some (.float64 (L.jsValueGetFloat64 (L.jsNewFloat64Raw d))) := by
  rw [decode, hL.jsValueGetNormTag_encode]
  rfl

theorem decode_encode_heap (t : HeapTag) (p : BitVec L.ptrBits) :
    L.decode (L.encode (.heap t p)) = some (.heap t p) := by
  rw [decode, hL.jsValueGetNormTag_encode]
  dsimp only [Logical.kind]
  rw [if_neg (ne_jsTagFloat64_of_nonFloatTag t.nonFloatTag), HeapTag.ofTag?_tag]
  exact congrArg (some ∘ Logical.heap t) (hL.getPtr_mkptr _ _)

theorem decode_encode_inline (t : InlineTag) (i : BitVec 32) :
    L.decode (L.encode (.inline t i)) = some (.inline t i) := by
  rw [decode, hL.jsValueGetNormTag_encode]
  dsimp only [Logical.kind]
  rw [if_neg (ne_jsTagFloat64_of_nonFloatTag t.nonFloatTag), HeapTag.ofTag?_inline,
    InlineTag.ofTag?_tag]
  exact congrArg (some ∘ Logical.inline t) (hL.getInt_mkval _ _)

/-- Decoding undoes encoding on every logical value but a NaN, which decodes to some NaN. -/
theorem decode_encode (x : Logical L.ptrBits) :
    (x.isNan = false → L.decode (L.encode x) = some x) ∧
      (x.isNan = true →
        ∃ d, L.decode (L.encode x) = some (.float64 d) ∧ Float64.isNan d = true) := by
  cases x with
  | float64 d =>
    rw [hL.decode_encode_float64]
    refine ⟨fun hd => by rw [hL.getFloat64_newFloat64 d hd], fun hd => ⟨_, rfl, ?_⟩⟩
    rw [hL.isNan_getFloat64_newFloat64]; exact hd
  | heap t p => exact ⟨fun _ => hL.decode_encode_heap t p, fun h => absurd h Bool.false_ne_true⟩
  | inline t i =>
    exact ⟨fun _ => hL.decode_encode_inline t i, fun h => absurd h Bool.false_ne_true⟩

theorem encode_ne_of_isNan {x y : Logical L.ptrBits} (hx : x.isNan = false) (hy : y.isNan = true) :
    L.encode x ≠ L.encode y := fun h => by
  obtain ⟨d, hd, hnan⟩ := (hL.decode_encode y).2 hy
  have hxd : x = .float64 d :=
    Option.some.inj (((hL.decode_encode x).1 hx).symm.trans ((congrArg L.decode h).trans hd))
  subst hxd
  exact absurd (hnan.symm.trans hx) Bool.noConfusion

/-- Two logical values with one encoding are equal, or both NaNs. -/
theorem eq_of_encode_eq {x y : Logical L.ptrBits} (h : L.encode x = L.encode y) :
    x = y ∨ (x.isNan = true ∧ y.isNan = true) := by
  cases hx : x.isNan <;> cases hy : y.isNan
  · exact .inl (Option.some.inj (((hL.decode_encode x).1 hx).symm.trans
      ((congrArg L.decode h).trans ((hL.decode_encode y).1 hy))))
  · exact absurd h (hL.encode_ne_of_isNan hx hy)
  · exact absurd h.symm (hL.encode_ne_of_isNan hy hx)
  · exact .inr ⟨rfl, rfl⟩

theorem tagIsFloat64_getTag_encode (x : Logical L.ptrBits) :
    L.jsTagIsFloat64 (L.jsValueGetTag (L.encode x)) = (x.kind == jsTagFloat64) := by
  rcases hL.getTag_encode x with ⟨hkind, hfloat⟩ | ⟨hwin, htag⟩
  · rw [hfloat, hkind, beq_self_eq_true]
  · rw [htag, hL.tagIsFloat64_of_nonFloat _ hwin,
      beq_false_of_ne (ne_jsTagFloat64_of_nonFloatTag hwin)]

theorem jsValueIsBothInt_encode (x y : Logical L.ptrBits) :
    L.jsValueIsBothInt (L.encode x) (L.encode y) = (x.kind == jsTagInt && y.kind == jsTagInt) := by
  have hint : NonFloatTag jsTagInt := by decide
  rw [← hL.jsValueTagIs_encode hint x, ← hL.jsValueTagIs_encode hint y]
  unfold jsValueIsBothInt jsValueTagIs
  rw [Bool.eq_iff_iff, beq_iff_eq, bitVec_or_eq_zero_iff, Bool.and_eq_true, beq_iff_eq, beq_iff_eq]
  rfl

theorem jsValueIsBothFloat_encode (x y : Logical L.ptrBits) :
    L.jsValueIsBothFloat (L.encode x) (L.encode y) =
      (x.kind == jsTagFloat64 && y.kind == jsTagFloat64) := by
  rw [jsValueIsBothFloat, hL.tagIsFloat64_getTag_encode, hL.tagIsFloat64_getTag_encode]

end Lawful

end Layout

/-! ### Over both builds -/

/-- In both builds, decoding a value the header built gives back its logical value, a double of
any bits but a NaN's included, and a NaN decodes to a NaN. -/
theorem decode_encode_round_trip (b : Build) (x : Logical b.layout.ptrBits) :
    (x.isNan = false → b.layout.decode (b.layout.encode x) = some x) ∧
      (x.isNan = true →
        ∃ d, b.layout.decode (b.layout.encode x) = some (.float64 d) ∧
          Float64.isNan d = true) :=
  b.lawful.decode_encode x

/-- The NaN-boxed encoding identifies exactly the NaNs: two logical values share a word if and
only if they are equal or both NaNs. -/
theorem nanBoxing_encode_eq_iff (x y : Logical Layout.nanBoxing.ptrBits) :
    Layout.nanBoxing.encode x = Layout.nanBoxing.encode y ↔
      x = y ∨ (x.isNan = true ∧ y.isNan = true) := by
  refine ⟨Layout.nanBoxing_lawful.eq_of_encode_eq, ?_⟩
  rintro (rfl | ⟨hx, hy⟩)
  · rfl
  · cases x <;> cases y <;> simp only [Logical.isNan, Bool.false_eq_true] at hx hy
    exact (NanBoxing.jsNewFloat64Raw_of_isNan hx).trans (NanBoxing.jsNewFloat64Raw_of_isNan hy).symm

/-- The struct encoding loses nothing: it is injective, NaN payloads included. -/
theorem struct_encode_injective : Function.Injective Layout.struct.encode := by
  intro x y h
  rcases Layout.struct_lawful.eq_of_encode_eq h with hxy | ⟨hx, hy⟩
  · exact hxy
  · cases x <;> cases y <;> simp only [Logical.isNan, Bool.false_eq_true] at hx hy
    exact congrArg Logical.float64 (congrArg (fun v => v.u.float64) h)

/-- In both builds `JS_VALUE_IS_BOTH_INT` holds of two encoded values exactly when both are ints,
and `JS_VALUE_IS_BOTH_FLOAT` exactly when both are doubles. -/
theorem jsValueIsBoth_encode (b : Build) (x y : Logical b.layout.ptrBits) :
    b.layout.jsValueIsBothInt (b.layout.encode x) (b.layout.encode y) =
        (x.kind == jsTagInt && y.kind == jsTagInt) ∧
      b.layout.jsValueIsBothFloat (b.layout.encode x) (b.layout.encode y) =
        (x.kind == jsTagFloat64 && y.kind == jsTagFloat64) :=
  ⟨b.lawful.jsValueIsBothInt_encode x y, b.lawful.jsValueIsBothFloat_encode x y⟩

/-! ### The NaN-boxed word read back -/

/-- In the NaN-boxed build every word the engine can read is the encoding of what it reads as,
but a NaN other than `JS_NAN`: its double is a NaN, and storing that stores `JS_NAN`. -/
theorem nanBoxing_encode_decode (v : NanBoxing.JsValue) (x : Logical Layout.nanBoxing.ptrBits)
    (h : Layout.nanBoxing.decode v = some x) :
    (x.isNan = false → Layout.nanBoxing.encode x = v) ∧
      (x.isNan = true → Layout.nanBoxing.encode x = NanBoxing.jsNan) := by
  unfold Layout.decode at h
  dsimp only at h
  split at h
  · cases h
    exact ⟨NanBoxing.jsNewFloat64Raw_jsValueGetFloat64_of_not_isNan,
      NanBoxing.jsNewFloat64Raw_of_isNan⟩
  · rename_i hfloat
    have htag : Layout.nanBoxing.jsValueGetNormTag v = NanBoxing.jsValueGetTag v :=
      NanBoxing.jsValueGetNormTag_of_ne hfloat
    have hword : NanBoxing.jsMkval (NanBoxing.jsValueGetTag v) (NanBoxing.jsValueGetInt v) = v :=
      NanBoxing.jsMkval_jsValueGetTag v
    split at h
    · rename_i k hk
      cases h
      refine ⟨fun _ => ?_, fun h => absurd h Bool.false_ne_true⟩
      show NanBoxing.jsMkptr k.tag (NanBoxing.jsValueGetPtr v) = v
      rw [HeapTag.tag_of_ofTag? hk, htag]
      exact hword
    · obtain ⟨k, hk, rfl⟩ := Option.map_eq_some'.mp h
      refine ⟨fun _ => ?_, fun h => absurd h Bool.false_ne_true⟩
      show NanBoxing.jsMkval k.tag (NanBoxing.jsValueGetInt v) = v
      rw [InlineTag.tag_of_ofTag? hk, htag]
      exact hword

theorem nanBoxing_encode_decode_null :
    Layout.nanBoxing.decode (NanBoxing.jsMkval jsTagNull 0) = some (.inline .null 0) ∧
      ((Logical.inline .null 0 : Logical Layout.nanBoxing.ptrBits).isNan = false →
        Layout.nanBoxing.encode (.inline .null 0) = NanBoxing.jsMkval jsTagNull 0) ∧
      ((Logical.inline .null 0 : Logical Layout.nanBoxing.ptrBits).isNan = true →
        Layout.nanBoxing.encode (.inline .null 0) = NanBoxing.jsNan) :=
  ⟨by decide, nanBoxing_encode_decode _ _ (by decide)⟩

end QuickJs
