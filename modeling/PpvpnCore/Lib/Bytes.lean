import PpvpnCore.Lib.Text

/-!
# Bytes on a stream

Hexadecimal text, big-endian lengths, and a stream whose reads return whatever has
arrived.

* `hexDecode_hexEncode`, `u32OfBytes_bytesOfU32`: what was written is read back.
* `fill_frame`: a body behind its length is read whole, however it arrives.
-/

namespace Lib

/-! ## Hexadecimal -/

def hexChar (n : Nat) : Char :=
  if n < 10 then Char.ofNat (48 + n) else Char.ofNat (87 + n)

/-- Two characters a byte. -/
def hexChars (bytes : List UInt8) : List Char :=
  bytes.flatMap fun b => [hexChar (b.toNat / 16), hexChar (b.toNat % 16)]

/-- Both cases are read. -/
def hexBytes : List Char → Option (List UInt8)
  | [] => some []
  | [_] => none
  | high :: low :: rest => do
    let high ← hexDigit high
    let low ← hexDigit low
    let bytes ← hexBytes rest
    return UInt8.ofNat (16 * high + low) :: bytes

def hexEncode (bytes : List UInt8) : String := String.ofList (hexChars bytes)

def hexDecode (text : String) : Option (List UInt8) := hexBytes text.toList

theorem hexDigit_hexChar : ∀ n < 16, hexDigit (hexChar n) = some n := by decide

theorem hexBytes_hexChars (bytes : List UInt8) : hexBytes (hexChars bytes) = some bytes := by
  induction bytes with
  | nil => rfl
  | cons b rest ih =>
    have small : b.toNat < 256 := b.toNat_lt
    have high := hexDigit_hexChar (b.toNat / 16) (by omega)
    have low := hexDigit_hexChar (b.toNat % 16) (by omega)
    have whole : 16 * (b.toNat / 16) + b.toNat % 16 = b.toNat := by omega
    have step : hexChars (b :: rest)
        = hexChar (b.toNat / 16) :: hexChar (b.toNat % 16) :: hexChars rest := rfl
    rw [step, hexBytes, high, low, ih]
    change some (UInt8.ofNat (16 * (b.toNat / 16) + b.toNat % 16) :: rest) = some (b :: rest)
    rw [whole, UInt8.ofNat_toNat]

theorem hexDecode_hexEncode (bytes : List UInt8) : hexDecode (hexEncode bytes) = some bytes := by
  rw [hexDecode, hexEncode, String.toList_ofList]
  exact hexBytes_hexChars bytes

/-! ## Lengths -/

/-- The four bytes of a 32-bit number, the highest first. -/
def bytesOfU32 (n : Nat) : List UInt8 :=
  [UInt8.ofNat (n / 2 ^ 24), UInt8.ofNat (n / 2 ^ 16), UInt8.ofNat (n / 2 ^ 8), UInt8.ofNat n]

def u32OfBytes (bytes : List UInt8) : Nat := bytes.foldl (fun n b => 256 * n + b.toNat) 0

@[simp]
theorem length_bytesOfU32 (n : Nat) : (bytesOfU32 n).length = 4 := rfl

theorem u32OfBytes_bytesOfU32 {n : Nat} (small : n < 2 ^ 32) : u32OfBytes (bytesOfU32 n) = n := by
  simp only [u32OfBytes, bytesOfU32, List.foldl_cons, List.foldl_nil, UInt8.toNat_ofNat']
  omega

/-! ## Streams -/

/-- What is still to be read, in the pieces it arrives in; then the end. -/
abbrev Reader := List (List UInt8)

/-- Reads until `n` bytes are there or the stream ends. -/
def fill (n : Nat) : Reader → List UInt8 × Reader
  | [] => ([], [])
  | piece :: rest =>
    if n ≤ piece.length then (piece.take n, piece.drop n :: rest)
    else
      match fill (n - piece.length) rest with
      | (bytes, reader) => (piece ++ bytes, reader)

theorem fill_eq (n : Nat) (reader : Reader) :
    (fill n reader).1 = reader.flatten.take n ∧
      (fill n reader).2.flatten = reader.flatten.drop n := by
  induction reader generalizing n with
  | nil => simp [fill]
  | cons piece rest ih =>
    rw [fill]
    split
    · rename_i enough
      simp [List.take_append_of_le_length enough, List.drop_append_of_le_length enough]
    · rename_i short
      have long : piece.length ≤ n := by omega
      obtain ⟨bytes, reader⟩ := ih (n - piece.length)
      refine ⟨?_, ?_⟩
      · simp [bytes, List.take_append, List.take_of_length_le long]
      · simp [reader, List.drop_append, List.drop_of_length_le long]

/-- A body behind its length is read whole. -/
theorem fill_frame {reader : Reader} {body : List UInt8} (small : body.length < 2 ^ 32)
    (arrives : reader.flatten = bytesOfU32 body.length ++ body) :
    (fill 4 reader).1 = bytesOfU32 body.length ∧ u32OfBytes (bytesOfU32 body.length) = body.length ∧
      (fill body.length (fill 4 reader).2).1 = body := by
  have four : (bytesOfU32 body.length).length = 4 := length_bytesOfU32 _
  obtain ⟨head, tail⟩ := fill_eq 4 reader
  rw [arrives, List.take_left' four] at head
  rw [arrives, List.drop_left' four] at tail
  obtain ⟨whole, -⟩ := fill_eq body.length (fill 4 reader).2
  rw [tail, List.take_length] at whole
  exact ⟨head, u32OfBytes_bytesOfU32 small, whole⟩

end Lib
