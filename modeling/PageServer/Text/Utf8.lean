import PageServer.Text.Hex
/-! UTF-8. Decoding stops at the first byte that rules the text out and says where, how many
bytes it had taken for the unfinished character, and why. -/
namespace PageServer.Text

/-- Why bytes are no UTF-8. -/
inductive Utf8Cause where
  | startByte
  | continuationByte
  | endOfData
  deriving DecidableEq, Repr

/-- The first place at which bytes are no UTF-8. -/
structure Utf8Fault where
  cause : Utf8Cause
  first : UInt8
  position : Nat
  length : Nat
  deriving DecidableEq, Repr

def isTailByte (b : UInt8) : Bool :=
  0x80 ≤ b && b ≤ 0xBF

/-- Whether a byte may follow the first byte of a character: overlong forms, surrogates and code
points above U+10FFFF are refused here. -/
def isSecondByte (a b : UInt8) : Bool :=
  isTailByte b && !(a == 0xE0 && b < 0xA0) && !(a == 0xED && 0xA0 ≤ b) &&
    !(a == 0xF0 && b < 0x90) && !(a == 0xF4 && 0x90 ≤ b)

def payload (b : UInt8) : Nat :=
  b.toNat % 64

def decodeUtf8At (position : Nat) : List UInt8 → Except Utf8Fault (List Char)
  | [] => .ok []
  | a :: rest =>
      if a < 0x80 then
        (decodeUtf8At (position + 1) rest).map (Char.ofNat a.toNat :: ·)
      else if a < 0xC2 || 0xF4 < a then .error ⟨.startByte, a, position, 1⟩
      else match rest with
        | [] => .error ⟨.endOfData, a, position, 1⟩
        | b :: rest =>
            if !isSecondByte a b then .error ⟨.continuationByte, a, position, 1⟩
            else if a < 0xE0 then
              (decodeUtf8At (position + 2) rest).map
                (Char.ofNat (a.toNat % 32 * 64 + payload b) :: ·)
            else match rest with
              | [] => .error ⟨.endOfData, a, position, 2⟩
              | c :: rest =>
                  if !isTailByte c then .error ⟨.continuationByte, a, position, 2⟩
                  else if a < 0xF0 then
                    (decodeUtf8At (position + 3) rest).map
                      (Char.ofNat ((a.toNat % 16 * 64 + payload b) * 64 + payload c) :: ·)
                  else match rest with
                    | [] => .error ⟨.endOfData, a, position, 3⟩
                    | d :: rest =>
                        if !isTailByte d then .error ⟨.continuationByte, a, position, 3⟩
                        else
                          (decodeUtf8At (position + 4) rest).map
                            (Char.ofNat (((a.toNat % 8 * 64 + payload b) * 64 + payload c) * 64
                              + payload d) :: ·)

def decodeUtf8 (bytes : List UInt8) : Except Utf8Fault (List Char) :=
  decodeUtf8At 0 bytes

def utf8Bytes (c : Char) : List UInt8 :=
  let n := c.toNat
  if n < 0x80 then [.ofNat n]
  else if n < 0x800 then [.ofNat (0xC0 + n / 64), .ofNat (0x80 + n % 64)]
  else if n < 0x10000 then
    [.ofNat (0xE0 + n / 4096), .ofNat (0x80 + n / 64 % 64), .ofNat (0x80 + n % 64)]
  else
    [.ofNat (0xF0 + n / 262144), .ofNat (0x80 + n / 4096 % 64), .ofNat (0x80 + n / 64 % 64),
      .ofNat (0x80 + n % 64)]

def encodeUtf8 (s : List Char) : List UInt8 :=
  s.flatMap utf8Bytes

def utf8Length (s : String) : Nat :=
  s.utf8ByteSize

def Utf8Cause.message : Utf8Cause → String
  | .startByte => "invalid start byte"
  | .continuationByte => "invalid continuation byte"
  | .endOfData => "unexpected end of data"

/-- The fault in words: one byte is shown, several are given by their positions. -/
def Utf8Fault.message (fault : Utf8Fault) : String :=
  let place :=
    if fault.length == 1 then
      "byte 0x" ++ String.ofList (hexFixed 2 fault.first.toNat) ++ " in position "
        ++ toString fault.position
    else
      "bytes in position " ++ toString fault.position ++ "-"
        ++ toString (fault.position + fault.length - 1)
  "'utf-8' codec can't decode " ++ place ++ ": " ++ fault.cause.message

example : (decodeUtf8 (encodeUtf8 "aé☃𝄞".toList)).toOption = some "aé☃𝄞".toList := by
  decide +kernel

end PageServer.Text
