import Restatement.Text.Utf8

/-!
The encodings a source file may be read with.
-/

namespace Restatement

inductive Encoding where
  | utf8
  | latin1
  | utf16
  deriving DecidableEq, Repr

inductive DecodeError where
  | undecodable (codec : Text) (position width : Nat) (first : UInt8) (reason : Text)
  | missingByteOrderMark
  deriving DecidableEq, Repr

def DecodeError.message : DecodeError → Text
  | .undecodable codec position width first reason =>
      let place :=
        if width = 1 then
          "byte 0x".toList ++ Text.hexByte first ++ " in position ".toList ++ Text.ofNat position
        else
          "bytes in position ".toList ++ Text.ofNat position ++ ['-'] ++
            Text.ofNat (position + width - 1)
      ['\''] ++ codec ++ "' codec can't decode ".toList ++ place ++ ": ".toList ++ reason
  | .missingByteOrderMark => "UTF-16 stream does not start with BOM".toList

namespace Encoding

def ofName? (name : Text) : Option Encoding :=
  if ["utf-8".toList, "utf8".toList, "utf_8".toList].contains name then some .utf8
  else if ["latin-1".toList, "latin1".toList, "iso-8859-1".toList].contains name then some .latin1
  else if ["utf-16".toList, "utf16".toList, "utf_16".toList].contains name then some .utf16
  else none

def isHighSurrogate (n : Nat) : Bool := 0xD800 ≤ n && n < 0xDC00

def isLowSurrogate (n : Nat) : Bool := 0xDC00 ≤ n && n < 0xE000

def pairsFrom (bigEndian : Bool) (position : Nat) : Bytes → Except DecodeError Text
  | [] => .ok []
  | [last] => refuse position 1 last "truncated data".toList
  | a :: b :: rest =>
      let n := unit a b
      if isHighSurrogate n then
        match rest with
        | c :: d :: rest =>
            let m := unit c d
            if isLowSurrogate m then
              (pairsFrom bigEndian (position + 4) rest).map
                (Char.ofNat (0x10000 + (n - 0xD800) * 1024 + (m - 0xDC00)) :: ·)
            else refuse position 2 a "illegal UTF-16 surrogate".toList
        | rest => refuse position (2 + rest.length) a "unexpected end of data".toList
      else if isLowSurrogate n then refuse position 2 a "illegal encoding".toList
      else (pairsFrom bigEndian (position + 2) rest).map (Char.ofNat n :: ·)
where
  unit (a b : UInt8) : Nat :=
    if bigEndian then a.toNat * 256 + b.toNat else b.toNat * 256 + a.toNat
  refuse (position width : Nat) (first : UInt8) (reason : Text) : Except DecodeError Text :=
    .error (.undecodable (if bigEndian then "utf-16-be".toList else "utf-16-le".toList)
      position width first reason)

def decodeUtf16 : Bytes → Except DecodeError Text
  | 0xFF :: 0xFE :: rest => pairsFrom false 2 rest
  | 0xFE :: 0xFF :: rest => pairsFrom true 2 rest
  | [] => .ok []
  | bytes => (pairsFrom false 0 bytes).bind fun _ => .error .missingByteOrderMark

def decode : Encoding → Bytes → Except DecodeError Text
  | .utf8, bytes =>
      match Utf8.decode bytes with
      | .ok t => .ok t
      | .error e =>
          .error (.undecodable "utf-8".toList e.position e.width e.first e.fault.message)
  | .latin1, bytes => .ok (bytes.map fun b => Char.ofNat b.toNat)
  | .utf16, bytes => decodeUtf16 bytes

end Encoding

end Restatement
