import EntitySelection.Text.Quoted

/-!
# UTF-8

Decoding reads bytes one at a time and keeps the part of a character that it has seen. The
first fault ends it; a fault says where the faulty bytes stand and what is wrong with them.
-/

namespace EntitySelection.Text.Utf8

inductive FaultKind where
  | invalidStart
  | invalidContinuation
  | unexpectedEnd
  deriving DecidableEq, Repr

/-- Bytes that are no UTF-8: `length` bytes from `offset` on. -/
structure Fault where
  offset : Nat
  length : Nat
  kind : FaultKind
  byte : UInt8
  deriving DecidableEq, Repr

/-- A character of which `seen` bytes have been read and `missing` are to come; the next lies
between `lo` and `hi`. -/
structure Partial where
  first : UInt8
  seen : Nat
  missing : Nat
  value : Nat
  lo : UInt8
  hi : UInt8

/-- What the first byte of a character announces. -/
inductive Lead where
  | complete (c : Char)
  | more (p : Partial)
  | invalid

def Lead.ofByte (b : UInt8) : Lead :=
  if b < 0x80 then .complete (Char.ofNat b.toNat)
  else if b < 0xc2 then .invalid
  else if b < 0xe0 then .more ⟨b, 1, 1, b.toNat % 0x20, 0x80, 0xbf⟩
  else if b < 0xf0 then
    .more ⟨b, 1, 2, b.toNat % 0x10, if b = 0xe0 then 0xa0 else 0x80, if b = 0xed then 0x9f else 0xbf⟩
  else if b < 0xf5 then
    .more ⟨b, 1, 3, b.toNat % 0x08, if b = 0xf0 then 0x90 else 0x80, if b = 0xf4 then 0x8f else 0xbf⟩
  else .invalid

/-- The characters before the first fault, and that fault. `offset` is where the bytes start;
`pending` is a character that has begun before them. -/
def decodeFrom (offset : Nat) (pending : Option Partial) : List UInt8 → List Char × Option Fault
  | [] => match pending with
    | none => ([], none)
    | some p => ([], some ⟨offset - p.seen, p.seen, .unexpectedEnd, p.first⟩)
  | b :: bs => match pending with
    | none => match Lead.ofByte b with
      | .complete c =>
        let r := decodeFrom (offset + 1) none bs
        (c :: r.1, r.2)
      | .more p => decodeFrom (offset + 1) (some p) bs
      | .invalid => ([], some ⟨offset, 1, .invalidStart, b⟩)
    | some p =>
      if b < p.lo || p.hi < b then
        ([], some ⟨offset - p.seen, p.seen, .invalidContinuation, p.first⟩)
      else
        let value := p.value * 0x40 + b.toNat % 0x40
        if p.missing = 1 then
          let r := decodeFrom (offset + 1) none bs
          (Char.ofNat value :: r.1, r.2)
        else
          decodeFrom (offset + 1)
            (some ⟨p.first, p.seen + 1, p.missing - 1, value, 0x80, 0xbf⟩) bs

/-- The characters before the first fault, and that fault. -/
def decodePrefix (bs : List UInt8) : List Char × Option Fault := decodeFrom 0 none bs

def decode (bs : List UInt8) : Except Fault String :=
  match decodePrefix bs with
  | (cs, none) => .ok (String.ofList cs)
  | (_, some f) => .error f

def FaultKind.reason : FaultKind → String
  | invalidStart => "invalid start byte"
  | invalidContinuation => "invalid continuation byte"
  | unexpectedEnd => "unexpected end of data"

def Fault.message (f : Fault) : String :=
  let what :=
    if f.length = 1 then
      "byte 0x" ++ String.ofList (hexDigits 2 f.byte.toNat) ++ " in position " ++ toString f.offset
    else
      "bytes in position " ++ toString f.offset ++ "-" ++ toString (f.offset + f.length - 1)
  "'utf-8' codec can't decode " ++ what ++ ": " ++ f.kind.reason

def encode (s : String) : List UInt8 := s.toUTF8.toList

end EntitySelection.Text.Utf8
