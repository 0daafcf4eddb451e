/-! Bytes read as text in UTF-8. -/

namespace TabularQuery.Text

/-- The length of the longest run of whole characters, on from a position. -/
def wholeCharacters (bytes : ByteArray) (position : Nat) : Nat :=
  if _ : position < bytes.size then
    match bytes.utf8DecodeChar? position with
    | some c => wholeCharacters bytes (position + c.utf8Size)
    | none => position
  else position
termination_by bytes.size - position
decreasing_by have := c.utf8Size_pos; omega

/-- The text, or the length of the longest valid beginning. -/
def decode (bytes : List UInt8) : Except Nat String :=
  match String.fromUTF8? bytes.toByteArray with
  | some text => .ok text
  | none => .error (wholeCharacters bytes.toByteArray 0)

end TabularQuery.Text
