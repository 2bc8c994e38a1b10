import TopicStream.Text.Hex
import TopicStream.Text.Utf8

/-!
# Form encoding

The text form of query parameters. Letters, digits and `* - . _` stand for themselves, a space is
written `+`, and every other byte of the UTF-8 form is written `%` and two upper-case hexadecimal
digits. Decoding reads such texts back.
-/

namespace TopicStream.Text.Form

/-- Whether a byte stands for itself in an encoded text. -/
def isPlain (b : UInt8) : Bool :=
  let n := b.toNat
  (0x30 ≤ n && n ≤ 0x39) || (0x41 ≤ n && n ≤ 0x5A) || (0x61 ≤ n && n ≤ 0x7A) ||
    n == 0x2A || n == 0x2D || n == 0x2E || n == 0x5F

/-- The written form of one byte. -/
def encodeByte (b : UInt8) : List Char :=
  if isPlain b then [Char.ofNat b.toNat]
  else if b = 0x20 then ['+']
  else ['%', Hex.upper (b.toNat / 16), Hex.upper (b.toNat % 16)]

/-- The written form of a text. -/
def encode (text : List Char) : List Char :=
  (Utf8.encode text).flatMap encodeByte

/-- The bytes that a written form stands for. A percent sign without two hexadecimal digits stands
for itself, and so does every other character. -/
def decodeBytes : List Char → Bytes
  | [] => []
  | '%' :: hi :: lo :: rest =>
    match Hex.value? hi, Hex.value? lo with
    | some h, some l => UInt8.ofNat (h * 16 + l) :: decodeBytes rest
    | _, _ => 0x25 :: decodeBytes (hi :: lo :: rest)
  | '+' :: rest => 0x20 :: decodeBytes rest
  | c :: rest => String.utf8EncodeChar c ++ decodeBytes rest

/-- The text that a written form stands for. -/
def decode (text : List Char) : List Char :=
  Utf8.decodeLossy (decodeBytes text)

/-- Parameters, each a key and a value, written one after the other. -/
def encodePairs (pairs : List (String × String)) : List Char :=
  ['&'].intercalate (pairs.map fun p => encode p.1.toList ++ '=' :: encode p.2.toList)

end TopicStream.Text.Form
