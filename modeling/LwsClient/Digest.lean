import Mathlib.Data.List.GetD
import LwsClient.CString

/-!
# The digests of the handshake key

`libwebsockets_generate_client_handshake` encodes its 16 random bytes with
`lws_b64_encode_string` and hashes the key and the WebSocket GUID with `SHA1`.
Neither function is in `client.c`; both are modelled here from the spec
(RFC 4648 base64 with `=` padding, FIPS 180-1 SHA-1), as executable functions.
-/

namespace LwsClient

/-- The base64 alphabet of `lws_b64_encode_string`. -/
def base64Alphabet : List Char :=
  "ABCDEFGHIJKLMNOPQRSTUVWXYZabcdefghijklmnopqrstuvwxyz0123456789+/".toList

/-- The base64 digit of a six-bit value. -/
def base64Digit (n : Nat) : Char :=
  base64Alphabet.getD n '='

/-- Modelled from the spec: `lws_b64_encode_string` of lib/base64-decode.c,
which is not under src/.  Three bytes become four digits; a last group of one
or two bytes is padded with `=`. -/
def lwsB64Encode : List UInt8 → List Char
  | a :: b :: c :: rest =>
      [base64Digit (a.toNat / 4), base64Digit (a.toNat % 4 * 16 + b.toNat / 16),
        base64Digit (b.toNat % 16 * 4 + c.toNat / 64), base64Digit (c.toNat % 64)] ++
        lwsB64Encode rest
  | [a, b] =>
      [base64Digit (a.toNat / 4), base64Digit (a.toNat % 4 * 16 + b.toNat / 16),
        base64Digit (b.toNat % 16 * 4), '=']
  | [a] => [base64Digit (a.toNat / 4), base64Digit (a.toNat % 4 * 16), '=', '=']
  | [] => []

theorem base64Digit_ne_nul (n : Nat) : base64Digit n ≠ '\x00' := by
  unfold base64Digit
  by_cases small : n < base64Alphabet.length
  · rw [List.getD_eq_getElem _ _ small]
    have member := List.getElem_mem small
    intro isNul
    rw [isNul] at member
    exact absurd member (by decide)
  · rw [List.getD_eq_default _ _ (by omega)]
    decide

/-- A base64 string holds no NUL, so it is a C string. -/
theorem nul_not_mem_lwsB64Encode (bytes : List UInt8) : '\x00' ∉ lwsB64Encode bytes := by
  induction bytes using lwsB64Encode.induct <;>
    simp_all [lwsB64Encode, base64Digit_ne_nul, eq_comm (a := '\x00')]

/-- Four base64 digits for every started group of three bytes. -/
theorem length_lwsB64Encode (bytes : List UInt8) :
    (lwsB64Encode bytes).length = 4 * ((bytes.length + 2) / 3) := by
  induction bytes using lwsB64Encode.induct with
  | case1 a b c rest ih =>
      simp only [lwsB64Encode, List.length_append, List.length_cons, List.length_nil, ih]
      omega
  | _ => simp [lwsB64Encode]

/-! ## SHA-1 -/

/-- SHA-1's circular left shift of a word. -/
def rotateLeft (x : UInt32) (n : Nat) : UInt32 :=
  (x <<< n.toUInt32) ||| (x >>> (32 - n).toUInt32)

/-- Padding: a one bit, zeros, and the message length in bits as 64-bit big
endian, to a whole number of 64-byte blocks. -/
def sha1Pad (msg : List UInt8) : List UInt8 :=
  msg ++ [0x80] ++ List.replicate ((119 - msg.length % 64) % 64) 0 ++
    (List.range 8).reverse.map fun i => (msg.length * 8 / Nat.pow 2 (8 * i)).toUInt8

/-- The big-endian word at word index `i` of a block. -/
def blockWord (block : List UInt8) (i : Nat) : UInt32 :=
  (List.range 4).foldl
    (fun word j => word * 256 + (block.getD (4 * i + j) 0).toUInt32) 0

/-- The message schedule: sixteen block words extended to eighty. -/
def scheduleFrom : Nat → List UInt32 → List UInt32
  | 0, words => words
  | n + 1, words =>
      let t := words.length
      scheduleFrom n (words ++ [rotateLeft (words.getD (t - 3) 0 ^^^ words.getD (t - 8) 0 ^^^
        words.getD (t - 14) 0 ^^^ words.getD (t - 16) 0) 1])

/-- One of the eighty rounds on the working variables `a, b, c, d, e`. -/
def sha1Round (vars : UInt32 × UInt32 × UInt32 × UInt32 × UInt32) (t : Nat) (w : UInt32) :
    UInt32 × UInt32 × UInt32 × UInt32 × UInt32 :=
  let (a, b, c, d, e) := vars
  let (f, k) :=
    if t < 20 then ((b &&& c) ||| (~~~b &&& d), (0x5A827999 : UInt32))
    else if t < 40 then (b ^^^ c ^^^ d, 0x6ED9EBA1)
    else if t < 60 then ((b &&& c) ||| (b &&& d) ||| (c &&& d), 0x8F1BBCDC)
    else (b ^^^ c ^^^ d, 0xCA62C1D6)
  (rotateLeft a 5 + f + e + k + w, a, rotateLeft b 30, c, d)

/-- The compression of one block into the chaining value. -/
def sha1Block (h : UInt32 × UInt32 × UInt32 × UInt32 × UInt32) (block : List UInt8) :
    UInt32 × UInt32 × UInt32 × UInt32 × UInt32 :=
  let schedule := scheduleFrom 64 ((List.range 16).map (blockWord block))
  let (a, b, c, d, e) :=
    ((List.range 80).zip schedule).foldl (fun vars tw => sha1Round vars tw.1 tw.2) h
  (h.1 + a, h.2.1 + b, h.2.2.1 + c, h.2.2.2.1 + d, h.2.2.2.2 + e)

/-- The blocks of a padded message, `n` of them. -/
def sha1Blocks : Nat → List UInt8 → UInt32 × UInt32 × UInt32 × UInt32 × UInt32 →
    UInt32 × UInt32 × UInt32 × UInt32 × UInt32
  | 0, _, h => h
  | n + 1, bytes, h => sha1Blocks n (bytes.drop 64) (sha1Block h (bytes.take 64))

/-- A word as four big-endian bytes. -/
def wordBytes (w : UInt32) : List UInt8 :=
  [(w >>> 24).toUInt8, (w >>> 16).toUInt8, (w >>> 8).toUInt8, w.toUInt8]

/-- Modelled from the spec: `SHA1` (lib/sha-1.c or the TLS library), which is
not under src/: the 20-byte FIPS 180-1 digest of the bytes of a string. -/
def sha1 (msg : List Char) : List UInt8 :=
  let bytes := msg.map fun c => c.toNat.toUInt8
  let (a, b, c, d, e) := sha1Blocks ((sha1Pad bytes).length / 64) (sha1Pad bytes)
    (0x67452301, 0xEFCDAB89, 0x98BADCFE, 0x10325476, 0xC3D2E1F0)
  wordBytes a ++ wordBytes b ++ wordBytes c ++ wordBytes d ++ wordBytes e

theorem length_sha1 (msg : List Char) : (sha1 msg).length = 20 := by
  simp [sha1, wordBytes]

end LwsClient
