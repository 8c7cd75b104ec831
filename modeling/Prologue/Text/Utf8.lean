import Prologue.Bytes

/-!
# Reading UTF-8

Strict decoding with the position and the reason of the first fault. A fault covers the bytes of
a sequence that were well formed up to the point where it broke: a byte that can start nothing, a
sequence cut off by the end of the text, or a sequence continued by a byte that cannot continue it.
Overlong forms, surrogates and values above U+10FFFF are faults of the second byte.
-/

namespace Prologue.Utf8

inductive Reason where
  | start
  | continuation
  | truncated
  deriving DecidableEq, Repr

def Reason.message : Reason → String
  | .start => "invalid start byte"
  | .continuation => "invalid continuation byte"
  | .truncated => "unexpected end of data"

/-- The first place where a byte string is not UTF-8: `width` bytes from `position` on. -/
structure Fault where
  position : Nat
  width : Nat
  byte : UInt8
  reason : Reason
  deriving DecidableEq, Repr

/-- Two lower-case hexadecimal digits. -/
def hexByte (byte : UInt8) : String :=
  let digit (n : Nat) : Char := Char.ofNat (if n < 10 then 48 + n else 87 + n)
  String.ofList [digit (byte.toNat / 16), digit (byte.toNat % 16)]

def Fault.message (fault : Fault) : String :=
  if fault.width = 1 then
    s!"'utf-8' codec can't decode byte 0x{hexByte fault.byte} in position {fault.position}: " ++
      fault.reason.message
  else
    s!"'utf-8' codec can't decode bytes in position {fault.position}-" ++
      s!"{fault.position + fault.width - 1}: " ++ fault.reason.message

/-- Bytes 80 to BF, which continue a sequence. -/
def isContinuation (byte : UInt8) : Bool := 0x80 ≤ byte && byte < 0xC0

/-- Whether `second` may follow the lead byte of a sequence of three or four bytes. -/
def admitsSecond (lead second : UInt8) : Bool :=
  isContinuation second &&
    (if lead = 0xE0 then 0xA0 ≤ second
     else if lead = 0xED then second < 0xA0
     else if lead = 0xF0 then 0x90 ≤ second
     else if lead = 0xF4 then second < 0x90
     else true)

/-- Number of bytes that a lead byte announces; none for a byte that starts nothing. -/
def announced (lead : UInt8) : Option Nat :=
  if lead < 0x80 then some 1
  else if lead < 0xC2 then none
  else if lead < 0xE0 then some 2
  else if lead < 0xF0 then some 3
  else if lead < 0xF5 then some 4
  else none

/-- Payload of a continuation byte. -/
def payload (byte : UInt8) : Nat := byte.toNat % 64

/-- What stands at the front of a byte string. -/
inductive Front where
  /-- A character of the given code and width. -/
  | point (code width : Nat)
  /-- A fault that covers `width` bytes. -/
  | broken (width : Nat) (reason : Reason)
  deriving DecidableEq, Repr

/-- Reads the character that starts with `lead` and goes on in `rest`. -/
def front (lead : UInt8) (rest : Bytes) : Front :=
  match announced lead, rest with
  | none, _ => .broken 1 .start
  | some 1, _ => .point lead.toNat 1
  | some 2, b :: _ =>
    if isContinuation b then .point (lead.toNat % 32 * 64 + payload b) 2
    else .broken 1 .continuation
  | some 3, b :: c :: _ =>
    if !admitsSecond lead b then .broken 1 .continuation
    else if !isContinuation c then .broken 2 .continuation
    else .point (lead.toNat % 16 * 4096 + payload b * 64 + payload c) 3
  | some 4, b :: c :: d :: _ =>
    if !admitsSecond lead b then .broken 1 .continuation
    else if !isContinuation c then .broken 2 .continuation
    else if !isContinuation d then .broken 3 .continuation
    else .point (lead.toNat % 8 * 262144 + payload b * 4096 + payload c * 64 + payload d) 4
  | some 4, b :: c :: [] =>
    if !admitsSecond lead b then .broken 1 .continuation
    else if !isContinuation c then .broken 2 .continuation
    else .broken 3 .truncated
  | some _, b :: [] =>
    if !admitsSecond lead b then .broken 1 .continuation else .broken 2 .truncated
  | some _, _ => .broken 1 .truncated

/-- Decodes from `position` on; `skip` bytes still belong to the character read last. -/
def decodeFrom (position skip : Nat) : Bytes → Except Fault (List Char)
  | [] => .ok []
  | byte :: rest =>
    match skip with
    | skip + 1 => decodeFrom (position + 1) skip rest
    | 0 =>
      match front byte rest with
      | .broken width reason => .error ⟨position, width, byte, reason⟩
      | .point code width =>
        match decodeFrom (position + 1) (width - 1) rest with
        | .ok text => .ok (Char.ofNat code :: text)
        | .error fault => .error fault

/-- The characters of a byte string, or its first fault. -/
def decode (bytes : Bytes) : Except Fault (List Char) := decodeFrom 0 0 bytes

/-- The bytes of one character. -/
def encodeChar (c : Char) : Bytes :=
  let n := c.toNat
  let tail (unit : Nat) : UInt8 := UInt8.ofNat (0x80 + n / unit % 64)
  if n < 0x80 then [UInt8.ofNat n]
  else if n < 0x800 then [UInt8.ofNat (0xC0 + n / 64), tail 1]
  else if n < 0x10000 then [UInt8.ofNat (0xE0 + n / 4096), tail 64, tail 1]
  else [UInt8.ofNat (0xF0 + n / 262144), tail 4096, tail 64, tail 1]

/-- The bytes of a text. -/
def encode (text : List Char) : Bytes := text.flatMap encodeChar

/-- Code points, where a byte that belongs to no character stands for U+DC00 plus that byte. -/
def scalarsFrom (skip : Nat) : Bytes → List Nat
  | [] => []
  | byte :: rest =>
    match skip with
    | skip + 1 => scalarsFrom skip rest
    | 0 =>
      match front byte rest with
      | .broken _ _ => (0xDC00 + byte.toNat) :: scalarsFrom 0 rest
      | .point code width => code :: scalarsFrom (width - 1) rest

/-- Code points of a byte string that need not be UTF-8, as file names are not. -/
def scalars (bytes : Bytes) : List Nat := scalarsFrom 0 bytes

/-- The characters of a byte string, with a replacement for each stray byte. -/
def lossy (bytes : Bytes) : List Char :=
  (scalars bytes).map fun code =>
    if 0xD800 ≤ code && code < 0xE000 then Char.ofNat 0xFFFD else Char.ofNat code

end Prologue.Utf8
