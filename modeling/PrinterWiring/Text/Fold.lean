/-!
# Letter case

Names and port ids are compared without regard to the case of the ASCII letters; all other
characters, accented letters included, stay distinct.
-/

namespace PrinterWiring.Text

/-- The text with its ASCII letters in lower case. -/
def lower (s : String) : String := .ofList (s.toList.map Char.toLower)

/-- The text with its ASCII letters in upper case. -/
def upper (s : String) : String := .ofList (s.toList.map Char.toUpper)

/-- Whether two texts are equal up to the case of ASCII letters. -/
def sameFolded (s t : String) : Bool := upper s == upper t

end PrinterWiring.Text
