import StaticSite.Number.Power

set_option autoImplicit false

/-! # Bytes as text

Decoding of UTF-8 that always succeeds: the longest beginning of a character that breaks off, and
every byte that begins no character, becomes one replacement character. -/

namespace StaticSite.Text.Utf8

/-- The number of bytes behind a first byte, and the range that the first of them must lie in. -/
def lead? (b : Nat) : Option (Nat × Nat × Nat) :=
  if 0xC2 ≤ b && b ≤ 0xDF then some (1, 0x80, 0xBF)
  else if b = 0xE0 then some (2, 0xA0, 0xBF)
  else if b = 0xED then some (2, 0x80, 0x9F)
  else if 0xE1 ≤ b && b ≤ 0xEF then some (2, 0x80, 0xBF)
  else if b = 0xF0 then some (3, 0x90, 0xBF)
  else if b = 0xF4 then some (3, 0x80, 0x8F)
  else if 0xF1 ≤ b && b ≤ 0xF3 then some (3, 0x80, 0xBF)
  else none

/-- The bits of a first byte with `n` bytes behind it that belong to the code point. -/
def leadBits (b n : Nat) : Nat :=
  b % Number.twoTo (6 - n)

/-- Decodes bytes. Between the bytes of a character, `value` holds its bits up to now, `more` the
    number of bytes to come, and `low` and `high` bound the next of them. -/
def decodeFrom (value more low high : Nat) : List Nat → List Char
  | [] => if more = 0 then [] else ['\uFFFD']
  | b :: rest =>
      if more ≠ 0 && low ≤ b && b ≤ high then
        let value := 64 * value + b % 64
        if more = 1 then Char.ofNat value :: decodeFrom 0 0 0 0 rest
        else decodeFrom value (more - 1) 0x80 0xBF rest
      else
        let broken := if more = 0 then [] else ['\uFFFD']
        if b < 0x80 then broken ++ Char.ofNat b :: decodeFrom 0 0 0 0 rest
        else
          match lead? b with
          | some (n, low, high) => broken ++ decodeFrom (leadBits b n) n low high rest
          | none => broken ++ '\uFFFD' :: decodeFrom 0 0 0 0 rest

/-- The text that bytes stand for. -/
def decode (bytes : List Nat) : List Char :=
  decodeFrom 0 0 0 0 bytes

end StaticSite.Text.Utf8
