import ClusterMatrix.Json.Compact

/-! # How a message shows a value -/

namespace ClusterMatrix.Json

/-- How a message writes what is no finite number. -/
def displayWords : Decimal.Words := ⟨"nan", "inf"⟩

/-- A text stands for itself, and the words begin with a capital. Names are neither arrays nor objects;
those are shown as one-line texts. -/
def display : Json → Text
  | .null => .whole "None"
  | .bool true => .whole "True"
  | .bool false => .whole "False"
  | .float x => .whole (String.ofList (Decimal.floatText displayWords x))
  | .str s => .whole s
  | .ragged r => .ragged r
  | v => .whole (String.ofList (compact v))

@[simp] theorem display_ofText (t : Text) : (ofText t).display = t := by cases t <;> rfl

end ClusterMatrix.Json
