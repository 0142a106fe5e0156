import QuickJsValue.Float64
import QuickJsValue.Rounding
import QuickJsValue.Tag
import QuickJsValue.NanBoxing
import QuickJsValue.Struct
import QuickJsValue.Layout
import QuickJsValue.Header
import QuickJsValue.Refinement
import QuickJsValue.Constructors
import QuickJsValue.Decode
import QuickJsValue.Number
import QuickJsValue.Truncation
import QuickJsValue.CheckJsValue
