import Highlighter.Character

/-!
# Operations on text

Trimming, case folding and lengths, stated on lists of characters so that their laws follow by
induction. Positions and lengths that the program reports are counted in bytes of the UTF-8
encoding.
-/

namespace Highlighter.Text

/-- The number of bytes that the characters take in UTF-8. -/
def byteLength : List Char → Nat
  | [] => 0
  | c :: rest => c.utf8Size + byteLength rest

@[simp]
theorem byteLength_nil : byteLength [] = 0 := rfl

@[simp]
theorem byteLength_cons (c : Char) (rest : List Char) :
    byteLength (c :: rest) = c.utf8Size + byteLength rest := rfl

@[simp]
theorem byteLength_append (left right : List Char) :
    byteLength (left ++ right) = byteLength left + byteLength right := by
  induction left with
  | nil => simp
  | cons c rest ih => simp [ih, Nat.add_assoc]

theorem length_le_byteLength (characters : List Char) :
    characters.length ≤ byteLength characters := by
  induction characters with
  | nil => simp
  | cons c rest ih =>
      have positive := c.utf8Size_pos
      simp only [List.length_cons, byteLength_cons]
      omega

/-- Drops every character at the end that satisfies the predicate. -/
def dropEndWhile (p : Char → Bool) (characters : List Char) : List Char :=
  (characters.reverse.dropWhile p).reverse

/-- Removes the white space at both ends. -/
def trim (text : String) : String :=
  String.ofList (dropEndWhile Character.isWhitespace (text.toList.dropWhile Character.isWhitespace))

/-- Maps the ASCII capitals to small letters and leaves every other character alone. -/
def foldCase (text : String) : String :=
  String.ofList (text.toList.map Char.toLower)

/-- Removes one dot at the start, if there is one. -/
def dropLeadingDot (text : String) : String :=
  match text.toList with
  | '.' :: rest => String.ofList rest
  | _ => text

/-- Pads the text with spaces on the right until it has at least `width` characters. -/
def padRight (width : Nat) (text : String) : String :=
  text ++ String.ofList (List.replicate (width - text.length) ' ')

end Highlighter.Text
