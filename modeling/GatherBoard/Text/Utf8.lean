import GatherBoard.Text.Basic

/-!
# Texts as bytes

Files hold UTF-8. Writing a text always succeeds. Reading succeeds exactly
on well-formed bytes; otherwise the first ill-formed sequence is reported
with its place and with what is wrong about it.
-/

namespace GatherBoard.Text

/-- What is wrong with a sequence of bytes. -/
inductive ByteError where
  /-- No character begins with this byte. -/
  | badStart
  /-- A byte that should go on with a character does not. -/
  | badContinuation
  /-- The bytes end inside a character. -/
  | truncated
  deriving DecidableEq, Repr

/-- The first ill-formed sequence of some bytes. -/
structure ByteFault where
  /-- Position of the first byte of the sequence. -/
  first : Nat
  /-- Position of its last byte. -/
  last : Nat
  /-- The first byte. -/
  byte : Nat
  /-- What is wrong. -/
  error : ByteError
  deriving DecidableEq, Repr

/-- How many bytes follow a lead byte, and the bounds of the first of them.
The bounds leave out overlong forms, surrogates and codes past the last. -/
def leadShape? (lead : Nat) : Option (Nat × Nat × Nat) :=
  if lead < 0x80 then some (0, 0x80, 0xBF)
  else if lead < 0xC2 then none
  else if lead < 0xE0 then some (1, 0x80, 0xBF)
  else if lead < 0xF0 then
    some (2, if lead = 0xE0 then 0xA0 else 0x80, if lead = 0xED then 0x9F else 0xBF)
  else if lead < 0xF5 then
    some (3, if lead = 0xF0 then 0x90 else 0x80, if lead = 0xF4 then 0x8F else 0xBF)
  else none

/-- How many of `count` following bytes are well formed, the first of them
between `low` and `high`. -/
def goodFollowers : Nat → Nat → Nat → List UInt8 → Nat
  | count + 1, low, high, b :: rest =>
    if low ≤ b.toNat && b.toNat ≤ high then goodFollowers count 0x80 0xBF rest + 1 else 0
  | _, _, _, _ => 0

/-- The first fault in bytes that start at position `pos`, of which the first
`skip` belong to a character already checked. Bytes without any fault can
only be said to end. -/
def byteFaultFrom : Nat → Nat → List UInt8 → ByteFault
  | _, pos, [] => ⟨pos, pos, 0, .truncated⟩
  | skip + 1, pos, _ :: rest => byteFaultFrom skip (pos + 1) rest
  | 0, pos, b :: rest =>
    match leadShape? b.toNat with
    | none => ⟨pos, pos, b.toNat, .badStart⟩
    | some (count, low, high) =>
      let good := goodFollowers count low high rest
      if good = count then byteFaultFrom count (pos + 1) rest
      else ⟨pos, pos + good, b.toNat, if rest.length ≤ good then .truncated else .badContinuation⟩

/-- Number of bytes that write a text. -/
def byteLength : Text → Nat
  | [] => 0
  | c :: rest => c.utf8Size + byteLength rest

/-- The bytes that write a text. -/
def encode (t : Text) : ByteArray := (String.ofList t).toUTF8

/-- The text that some bytes write, or the first fault of bytes that write
none. -/
def decode (bytes : ByteArray) : Except ByteFault Text :=
  match String.fromUTF8? bytes with
  | some s => .ok s.toList
  | none => .error (byteFaultFrom 0 0 bytes.toList)

/-- What was written is read back. -/
theorem decode_encode (t : Text) : decode (encode t) = .ok t := by
  have valid : (String.ofList t).toByteArray.IsValidUTF8 := (String.ofList t).isValidUTF8
  have read : String.fromUTF8? (String.ofList t).toByteArray = some (String.ofList t) :=
    dif_pos valid
  unfold decode encode
  rw [String.toUTF8, read]
  simp

/-- A byte error in words. -/
def ByteError.reason : ByteError → Text
  | .badStart => "invalid start byte".toList
  | .badContinuation => "invalid continuation byte".toList
  | .truncated => "unexpected end of data".toList

/-- A fault in words: a single byte is shown, several are only counted. -/
def ByteFault.message (f : ByteFault) : Text :=
  "'utf-8' codec can't decode byte".toList ++
    (if f.first = f.last then " 0x".toList ++ hex 2 f.byte ++ " in position ".toList ++ ofNat f.first
     else "s in position ".toList ++ ofNat f.first ++ ['-'] ++ ofNat f.last) ++
    ": ".toList ++ f.error.reason

end GatherBoard.Text
