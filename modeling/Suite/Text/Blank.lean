/-!
# Blank characters

The characters with the Unicode property `White_Space`, and texts without those at either end.
`trim` is how every comma-separated list of this library cleans its entries.
-/

namespace Suite.Text

/-- The character has the Unicode property `White_Space`. -/
def isBlank (c : Char) : Bool :=
  ('\t' ≤ c && c ≤ '\r') || c == ' ' || c == '\u0085' || c == '\u00a0' || c == '\u1680'
    || ('\u2000' ≤ c && c ≤ '\u200a') || c == '\u2028' || c == '\u2029' || c == '\u202f'
    || c == '\u205f' || c == '\u3000'

/-- The characters without the blanks in front. -/
def trimLeft (s : List Char) : List Char := s.dropWhile isBlank

/-- The characters without the blanks at either end. -/
def trimChars (s : List Char) : List Char := (trimLeft (trimLeft s).reverse).reverse

/-- The text without the blanks at either end. -/
def trim (s : String) : String := String.ofList (trimChars s.toList)

end Suite.Text
