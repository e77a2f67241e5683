import FilterQuery.Number.Digit
import FilterQuery.Text.Utf8
/-!
# Percent-encoded text

A query that goes into a URL keeps its ASCII letters, its ASCII digits and the
four marks `-`, `_`, `.` and `~`; every other character is written byte by
byte, each byte as a percent sign and two upper-case hexadecimal digits.
Reading the groups back gives the bytes again.
-/

namespace FilterQuery.Text

def isUnreserved (c : Char) : Bool :=
  c.isAlphanum || c == '-' || c == '_' || c == '.' || c == '~'

def upperHexDigit (n : Nat) : Char :=
  if n < 10 then Char.ofNat ('0'.toNat + n) else Char.ofNat ('A'.toNat + (n - 10))

/-- A byte as a percent sign and two hexadecimal digits. -/
def percentByte (byte : UInt8) : Text :=
  ['%', upperHexDigit (byte.toNat / 16), upperHexDigit (byte.toNat % 16)]

def percentChar (c : Char) : Text :=
  if isUnreserved c then [c] else (String.utf8EncodeChar c).flatMap percentByte

def percentEncode (text : Text) : Text := text.flatMap percentChar

/-- The bytes that percent-encoded text stands for: a group stands for one byte,
any other character for its own bytes. Nothing if a percent sign begins no
group. -/
def percentBytes? : Text → Option (List UInt8)
  | [] => some []
  | [c] => if c = '%' then none else some (String.utf8EncodeChar c)
  | [c, d] =>
      if c = '%' then none
      else (percentBytes? [d]).map (String.utf8EncodeChar c ++ ·)
  | c :: high :: low :: rest =>
      if c = '%' then do
        let high ← digitValue? high
        let low ← digitValue? low
        some (UInt8.ofNat (high * 16 + low) :: (← percentBytes? rest))
      else (percentBytes? (high :: low :: rest)).map (String.utf8EncodeChar c ++ ·)

/-- The text that percent-encoded text stands for, if its bytes are UTF-8. -/
def percentDecode? (text : Text) : Option Text := percentBytes? text >>= ofUtf8?

end FilterQuery.Text
