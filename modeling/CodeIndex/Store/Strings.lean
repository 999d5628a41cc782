import CodeIndex.Fault
/-!
# Strings of an index

The strings of an index are octets and are compared as octets. Where a text is wanted they are read
as one: strictly, and then what is no text is told, or with U+FFFD for what is no text. Paths and
what is shown of a string come of the second reading.
-/
namespace CodeIndex.Bytes

/-- The text, or where the octets stop being one. -/
def asText (octets : Bytes) : Except Utf8.Fault String := Utf8.decode octets

/-- A copy of the text; octets that are none are malformed. -/
def ownText (octets : Bytes) : Except Malformation String :=
  octets.asText.mapError .invalidUtf8

def lossyText (octets : Bytes) : String := Utf8.lossy octets

def lossyPath (octets : Bytes) : Path := ⟨octets.lossyText⟩

def shown (octets : Bytes) : String := octets.lossyText

def equalsText (octets : Bytes) (text : String) : Bool := octets == Utf8.encode text

end CodeIndex.Bytes
