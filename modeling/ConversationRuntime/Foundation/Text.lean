import Mathlib.Data.List.Basic

/-! # Blank text

A text is blank when nothing is left of it after trimming, that is, when all its
characters are white space in the sense of Unicode.
-/

namespace Foundation

def isWhitespace (char : Char) : Bool :=
  let code := char.toNat
  (9 ≤ code && code ≤ 13) || code == 32 || code == 133 || code == 160 || code == 5760 ||
    (8192 ≤ code && code ≤ 8202) || code == 8232 || code == 8233 || code == 8239 ||
    code == 8287 || code == 12288

def isBlank (text : String) : Bool := text.toList.all isWhitespace

theorem isBlank_eq_false {text : String} (h : ¬ isBlank text = true) : isBlank text = false :=
  eq_false_of_ne_true h

/-- Text around something that is not blank is not blank. -/
theorem isBlank_append (first second : String) :
    isBlank (first ++ second) = (isBlank first && isBlank second) := by
  simp [isBlank, String.toList_append]

end Foundation
