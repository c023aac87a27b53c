/-!
# Sizes of texts
-/

namespace PagePrelude.Text

/-- The number of bytes that some characters take. -/
def byteSize (chars : List Char) : Nat :=
  chars.foldl (fun n c => n + c.utf8Size) 0

end PagePrelude.Text
