/-!
# Byte lengths

Positions in a text are counted in the bytes of its UTF-8 form, while a text is read as a list of
characters. Texts are put in the order of their bytes; in UTF-8 that is the order of their code
points, which is the order `String` has already.
-/

namespace SpacedReview.Text

/-- The number of bytes of a run of characters. -/
def byteLength : List Char → Nat
  | [] => 0
  | c :: cs => c.utf8Size + byteLength cs

@[simp] theorem byteLength_nil : byteLength [] = 0 := rfl

@[simp] theorem byteLength_cons (c : Char) (cs : List Char) :
    byteLength (c :: cs) = c.utf8Size + byteLength cs := rfl

@[simp] theorem byteLength_append (cs ds : List Char) :
    byteLength (cs ++ ds) = byteLength cs + byteLength ds := by
  induction cs with
  | nil => simp
  | cons c cs ih => simp [ih, Nat.add_assoc]

end SpacedReview.Text
