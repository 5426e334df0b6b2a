import RecordDocs.Text.Code
import RecordDocs.Text.Printable
import RecordDocs.Text.Surrogate

/-!
# Quoted text

A text between quotation marks, as it appears in messages. Apostrophes mark both ends unless the
text holds an apostrophe and no double quote. The mark and the backslash are escaped inside, line
feed, carriage return and tab have letters of their own, and every other unprintable character is
written as its code in two, four or eight hexadecimal digits.
-/

namespace RecordDocs.Text

def quotationMark (chars : List Char) : Char :=
  if chars.contains '\'' && !chars.contains '"' then '"' else '\''

def quoteCode (mark : Char) (code : Nat) : List Char :=
  let char := Char.ofNat code
  if char == mark || char == '\\' then ['\\', char]
  else if char == '\n' then ['\\', 'n']
  else if char == '\r' then ['\\', 'r']
  else if char == '\t' then ['\\', 't']
  else if isPrintable char && !isSurrogate code then [char]
  else if code < 0x100 then '\\' :: 'x' :: hexDigits 2 code
  else if code < 0x10000 then '\\' :: 'u' :: hexDigits 4 code
  else '\\' :: 'U' :: hexDigits 8 code

def quoteChars (chars : List Char) : List Char :=
  let mark := quotationMark chars
  mark :: ((codes chars).flatMap (quoteCode mark) ++ [mark])

def quoted (text : String) : String :=
  String.ofList (quoteChars text.toList)

/-- An octet inside quotation marks; only those of visible characters stand for themselves. -/
def quoteOctet (mark : Char) (octet : UInt8) : List Char :=
  if octet.toNat < 0x7F then quoteCode mark octet.toNat
  else '\\' :: 'x' :: hexDigits 2 octet.toNat

/-- Octets between quotation marks, with a letter in front that tells them from a text. -/
def quotedOctets (octets : List UInt8) : String :=
  let mark := quotationMark (octets.map fun octet => Char.ofNat octet.toNat)
  String.ofList ('b' :: mark :: (octets.flatMap (quoteOctet mark) ++ [mark]))

end RecordDocs.Text
