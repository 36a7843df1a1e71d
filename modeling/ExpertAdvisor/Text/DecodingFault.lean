namespace ExpertAdvisor.Text

/-!
# Decoding faults

A byte sequence that is no encoded text is refused at its first ill-formed
part.  A fault names the encoding, that part, where it starts, and why it is
ill formed.
-/

/-- The encodings of text that are read. -/
inductive Encoding where
  | utf8
  | utf16LittleEndian
  | utf16BigEndian
  deriving Repr, DecidableEq

/-- Why a part of a byte sequence is ill formed. -/
inductive IllFormed where
  | invalidStart
  | invalidContinuation
  | unexpectedEnd
  | truncated
  | unpairedHighSurrogate
  | unpairedLowSurrogate
  deriving Repr, DecidableEq

/-- The first ill-formed part of a byte sequence. -/
structure DecodingFault where
  encoding : Encoding
  start : Nat
  bytes : List UInt8
  reason : IllFormed
  deriving Repr, DecidableEq

namespace Encoding

/-- The name of an encoding in messages. -/
def name : Encoding → String
  | .utf8 => "utf-8"
  | .utf16LittleEndian => "utf-16-le"
  | .utf16BigEndian => "utf-16-be"

end Encoding

namespace IllFormed

/-- What is wrong with bytes, in words. -/
def description : IllFormed → String
  | .invalidStart => "invalid start byte"
  | .invalidContinuation => "invalid continuation byte"
  | .unexpectedEnd => "unexpected end of data"
  | .truncated => "truncated data"
  | .unpairedHighSurrogate => "illegal UTF-16 surrogate"
  | .unpairedLowSurrogate => "illegal encoding"

end IllFormed

/-- A byte as two lower-case hexadecimal digits. -/
def hexByte (byte : UInt8) : String :=
  String.ofList [Nat.digitChar (byte.toNat / 16), Nat.digitChar (byte.toNat % 16)]

namespace DecodingFault

/-- One ill-formed byte is shown; of several only the positions are given. -/
def message (fault : DecodingFault) : String :=
  let part :=
    match fault.bytes with
    | [byte] => "byte 0x" ++ hexByte byte ++ " in position " ++ toString fault.start
    | bytes =>
        "bytes in position " ++ toString fault.start ++ "-" ++
          toString (fault.start + bytes.length - 1)
  "'" ++ fault.encoding.name ++ "' codec can't decode " ++ part ++ ": " ++
    fault.reason.description

end DecodingFault

end ExpertAdvisor.Text
