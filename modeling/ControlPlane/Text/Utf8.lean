/-!
# Texts as octets

* `utf8` -- the UTF-8 octets of a text;
* `ofUtf8?` -- the text of octets that are well-formed UTF-8: shortest forms only, no surrogates,
  nothing above U+10FFFF.
-/

namespace ControlPlane.Text

/-- The UTF-8 octets of a text. -/
def utf8 (text : String) : List UInt8 := text.toByteArray.data.toList

/-- The text that octets spell, if they are well-formed. -/
def ofUtf8? (octets : List UInt8) : Option String := String.fromUTF8? ⟨octets.toArray⟩

end ControlPlane.Text
