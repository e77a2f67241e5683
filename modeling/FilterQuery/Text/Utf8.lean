import FilterQuery.Text
/-!
# Text as bytes

The UTF-8 form of a text, and the text that a list of bytes is the UTF-8 form
of. Not every list of bytes is one.
-/

namespace FilterQuery.Text

def toUtf8 (text : Text) : List UInt8 := text.flatMap String.utf8EncodeChar

/-- The text with the given UTF-8 form, if there is one. -/
def ofUtf8? (bytes : List UInt8) : Option Text :=
  bytes.toByteArray.utf8Decode?.map Array.toList

theorem ofUtf8?_toUtf8 (text : Text) : ofUtf8? (toUtf8 text) = some text := by
  have h := List.utf8Decode?_utf8Encode (l := text)
  unfold List.utf8Encode at h
  simp [ofUtf8?, toUtf8, h]

end FilterQuery.Text
