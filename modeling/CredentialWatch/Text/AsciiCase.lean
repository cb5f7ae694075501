/-!
# ASCII case

Case is folded for the letters A to Z alone; every other character is compared as it is.
-/
namespace CredentialWatch.Text.AsciiCase

/-- The lower-case form of a text in which only ASCII letters change. -/
def fold (text : String) : List Char :=
  text.toList.map Char.toLower

/-- Whether two texts differ at most in the case of ASCII letters. -/
def same (left right : String) : Bool :=
  fold left == fold right

@[simp] theorem same_iff {left right : String} : same left right ↔ fold left = fold right := by
  simp [same]

end CredentialWatch.Text.AsciiCase
