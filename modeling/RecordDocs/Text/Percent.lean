import RecordDocs.Text.Utf8

/-!
# Percent encoding

An octet is written as a percent sign and its two hexadecimal digits. A percent sign that is not
followed by two of them stands for itself.
-/

namespace RecordDocs.Text

def percentOctets : List Char → List UInt8
  | [] => []
  | '%' :: high :: low :: rest =>
      match hexValue? high, hexValue? low with
      | some first, some second => UInt8.ofNat (first * 16 + second) :: percentOctets rest
      | _, _ => 37 :: percentOctets (high :: low :: rest)
  | char :: rest => String.utf8EncodeChar char ++ percentOctets rest

/-- The text that an encoded text stands for; octets that are no text give replacement
characters. -/
def percentDecode (chars : List Char) : List Char :=
  holdAll (decodeUtf8Lossy (percentOctets (plainChars chars)))

def isUnreserved (char : Char) : Bool :=
  char.isAlphanum || "-._~".toList.contains char

def percentOctet (octet : UInt8) : List Char :=
  '%' :: (hexDigits 2 octet.toNat).map Char.toUpper

def percentEncode (isKept : Char → Bool) (chars : List Char) : List Char :=
  (plainChars chars).flatMap fun char =>
    if isKept char then [char]
    else (String.utf8EncodeChar char).flatMap percentOctet

end RecordDocs.Text
