set_option autoImplicit false

/-! Cutting a text at a character, and putting the pieces together again. -/

namespace JoinTrust.Text

/-- The pieces of a text between occurrences of a character; there is always at least one. -/
def splitAt (mark : Char) : List Char → List (List Char)
  | [] => [[]]
  | character :: rest =>
    if character = mark then [] :: splitAt mark rest
    else
      match splitAt mark rest with
      | [] => [[character]]
      | first :: others => (character :: first) :: others

def joinWith (mark : Char) : List (List Char) → List Char
  | [] => []
  | [piece] => piece
  | piece :: rest => piece ++ mark :: joinWith mark rest

end JoinTrust.Text
