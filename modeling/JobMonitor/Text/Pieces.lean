set_option autoImplicit false

/-! # Pieces of a text

A text that is cut at every occurrence of a character. -/

namespace JobMonitor

/-- The pieces between the separators. There is one more of them than there are separators. -/
def splitChars (separator : Char) : List Char → List (List Char)
  | [] => [[]]
  | c :: rest =>
    if c = separator then [] :: splitChars separator rest
    else
      match splitChars separator rest with
      | [] => [[c]]
      | piece :: pieces => (c :: piece) :: pieces

/-- The pieces of a text. -/
def pieces (separator : Char) (text : String) : List String :=
  (splitChars separator text.toList).map String.ofList

end JobMonitor
