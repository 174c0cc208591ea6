import Mathlib.Algebra.Group.Nat.Basic
import Mathlib.Data.List.Basic

/-! The frame `perform_request` (`device/usb.rs`) hands to `write_control`: a 16-byte
little-endian header followed by the body, and the two header fields the response path
reads back with `LittleEndian::read_u16`. -/

namespace GoXLR.Usb

/-- `rusb::Error`. -/
inductive UsbError
  | Io | InvalidParam | Access | NoDevice | NotFound | Busy | Timeout | Overflow | Pipe
  | Interrupted | NoMem | NotSupported | BadDescriptor | Other
  deriving DecidableEq, Repr

/-- The `width` bytes `LittleEndian::write_u16`/`write_u32` store for `n`, low byte first. -/
def leBytes : Nat → Nat → List UInt8
  | 0, _ => []
  | w + 1, n => UInt8.ofNat n :: leBytes w (n / 256)

/-- `LittleEndian::read_u16`/`read_u32` over the bytes of the slice. -/
def leValue : List UInt8 → Nat
  | [] => 0
  | b :: bs => b.toNat + 256 * leValue bs

@[simp] theorem toNat_ofNat_uint8 (n : Nat) : (UInt8.ofNat n).toNat = n % 256 := rfl

@[simp] theorem toNat_toUInt16 (n : Nat) : n.toUInt16.toNat = n % 65536 := rfl

@[simp] theorem leBytes_length (w n : Nat) : (leBytes w n).length = w := by
  induction w generalizing n <;> simp [leBytes, *]

theorem leValue_leBytes (w n : Nat) : leValue (leBytes w n) = n % 256 ^ w := by
  induction w generalizing n with
  | zero => simp only [leBytes, leValue, Nat.pow_zero, Nat.mod_one]
  | succ w ih =>
    rw [leBytes, leValue, ih, Nat.pow_succ', Nat.mod_mul]
    rfl

/-- The 16-byte header shared by requests and responses: command id, body length, command
index, and eight reserved zero bytes. -/
def header (commandId : UInt32) (length commandIndex : UInt16) : List UInt8 :=
  leBytes 4 commandId.toNat ++ leBytes 2 length.toNat ++ leBytes 2 commandIndex.toNat ++
    List.replicate 8 0

/-- The request of `perform_request`: `vec![0; 16]` with the command id written at `0..4`,
`body.len() as u16` at `4..6` and the command index at `6..8`, extended by the body. -/
def fullRequest (commandId : UInt32) (commandIndex : UInt16) (body : List UInt8) :
    List UInt8 :=
  header commandId body.length.toUInt16 commandIndex ++ body

/-- `LittleEndian::read_u16(&response_header[offset..offset + 2])`. -/
def readU16 (bytes : List UInt8) (offset : Nat) : UInt16 :=
  (leValue ((bytes.drop offset).take 2)).toUInt16

@[simp] theorem header_length (commandId : UInt32) (length commandIndex : UInt16) :
    (header commandId length commandIndex).length = 16 := by
  simp [header]

theorem fullRequest_length (commandId : UInt32) (commandIndex : UInt16) (body : List UInt8) :
    (fullRequest commandId commandIndex body).length = 16 + body.length := by
  simp [fullRequest]

theorem fullRequest_take_four (commandId : UInt32) (commandIndex : UInt16) (body : List UInt8) :
    (fullRequest commandId commandIndex body).take 4 = leBytes 4 commandId.toNat := by
  simp only [fullRequest, header, List.append_assoc]
  exact List.take_left' (leBytes_length 4 _)

theorem fullRequest_reserved (commandId : UInt32) (commandIndex : UInt16) (body : List UInt8) :
    ((fullRequest commandId commandIndex body).drop 8).take 8 = List.replicate 8 0 := by
  rw [fullRequest, header, List.append_assoc _ (List.replicate 8 0), List.drop_left' (by simp),
    List.take_left' (by simp)]

theorem fullRequest_drop_sixteen (commandId : UInt32) (commandIndex : UInt16) (body : List UInt8) :
    (fullRequest commandId commandIndex body).drop 16 = body :=
  List.drop_left' (header_length _ _ _)

theorem readU16_leBytes (pre rest : List UInt8) (v : UInt16) :
    readU16 (pre ++ (leBytes 2 v.toNat ++ rest)) pre.length = v := by
  rw [readU16, List.drop_left, List.take_left' (leBytes_length 2 _), leValue_leBytes]
  exact UInt16.toNat.inj (by simp [Nat.mod_eq_of_lt v.toNat_lt_size])

theorem readU16_header_length (commandId : UInt32) (length commandIndex : UInt16)
    (rest : List UInt8) : readU16 (header commandId length commandIndex ++ rest) 4 = length := by
  simpa [header] using readU16_leBytes (leBytes 4 commandId.toNat) _ length

theorem readU16_header_index (commandId : UInt32) (length commandIndex : UInt16)
    (rest : List UInt8) :
    readU16 (header commandId length commandIndex ++ rest) 6 = commandIndex := by
  simpa [header] using
    readU16_leBytes (leBytes 4 commandId.toNat ++ leBytes 2 length.toNat) _ commandIndex

end GoXLR.Usb
