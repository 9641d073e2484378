import Formulary.Text

/-!
# Upper-case letters

A name in ASCII capitals is compared with a text in any case by its upper-case form. Beside the
small ASCII letters, a few other characters have an upper-case form in ASCII; characters with
another one are kept as they are, since no ASCII name can have them.
-/

namespace Formulary.Text

/-- The characters outside ASCII whose upper-case form is in ASCII: the sharp s, the dotless i, the
long s and the Latin ligatures. -/
def asciiCapitals : List (Char × String) :=
  [('\u00DF', "SS"), ('\u0131', "I"), ('\u017F', "S"), ('\uFB00', "FF"), ('\uFB01', "FI"),
   ('\uFB02', "FL"), ('\uFB03', "FFI"), ('\uFB04', "FFL"), ('\uFB05', "ST"), ('\uFB06', "ST")]

def capitals (c : Char) : Text :=
  match asciiCapitals.lookup c with
  | some form => form.toList
  | none => [c.toUpper]

def upper (text : Text) : Text :=
  text.flatMap capitals

/-- The lower-case form of a text in ASCII letters; other characters are kept as they are. -/
def asciiLower (text : Text) : Text :=
  text.map Char.toLower

end Formulary.Text
