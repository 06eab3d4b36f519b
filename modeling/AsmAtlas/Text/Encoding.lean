import AsmAtlas.Text.Basic

/-!
# Bytes and texts

Source files are UTF-8, with or without a byte-order mark, or else Latin-1. Lines end with a line
feed, whatever the file has.
-/

namespace AsmAtlas
namespace Encoding

/-- The characters of bytes in UTF-8; none unless all of them are well formed. -/
def utf8? (bytes : ByteArray) : Option Text :=
  bytes.utf8Decode?.map Array.toList

/-- One character for each byte. -/
def latin1 (bytes : ByteArray) : Text :=
  bytes.toList.map fun b => Char.ofNat b.toNat

/-- A text without one byte-order mark in front. -/
def dropMark : Text → Text
  | '\uFEFF' :: rest => rest
  | t => t

/-- Every carriage return, with the line feed behind it if there is one, becomes a line feed. -/
def unifyNewlines : Text → Text
  | [] => []
  | '\r' :: '\n' :: rest => '\n' :: unifyNewlines rest
  | '\r' :: rest => '\n' :: unifyNewlines rest
  | c :: rest => c :: unifyNewlines rest

/-- The text of a source file. -/
def sourceText (bytes : ByteArray) : Text :=
  unifyNewlines <|
    match utf8? bytes with
    | some t => dropMark t
    | none => latin1 bytes

/-- A character of several bytes of which some are still missing. -/
structure Unfinished where
  /-- The bits so far. -/
  value : Nat
  /-- How many bytes are missing, at least one. -/
  missing : Nat
  /-- The least and greatest next byte. The bounds leave out surrogates, overlong forms and what
      lies beyond the last code point. -/
  low : UInt8 := 0x80
  high : UInt8 := 0xBF

/-- What a byte at the beginning of a character gives. -/
def startByte (b : UInt8) : Text × Option Unfinished :=
  if b < 0x80 then ([Char.ofNat b.toNat], none)
  else if b < 0xC2 then (['\uFFFD'], none)
  else if b < 0xE0 then ([], some { value := b.toNat - 0xC0, missing := 1 })
  else if b < 0xF0 then
    ([], some {
      value := b.toNat - 0xE0
      missing := 2
      low := if b == 0xE0 then 0xA0 else 0x80
      high := if b == 0xED then 0x9F else 0xBF })
  else if b < 0xF5 then
    ([], some {
      value := b.toNat - 0xF0
      missing := 3
      low := if b == 0xF0 then 0x90 else 0x80
      high := if b == 0xF4 then 0x8F else 0xBF })
  else (['\uFFFD'], none)

/-- What a byte gives within a character. A byte that does not fit makes a replacement character
    of those before it and begins a new character. -/
def nextByte (u : Unfinished) (b : UInt8) : Text × Option Unfinished :=
  if u.low ≤ b && b ≤ u.high then
    let value := u.value * 0x40 + (b.toNat - 0x80)
    if u.missing ≤ 1 then ([Char.ofNat value], none)
    else ([], some { value, missing := u.missing - 1 })
  else
    let (out, started) := startByte b
    ('\uFFFD' :: out, started)

/-- The characters of bytes in UTF-8 after the beginning of one, with a replacement character for
    each longest stretch that begins like a character and is none. -/
def lossyFrom : Option Unfinished → List UInt8 → Text
  | none, [] => []
  | some _, [] => ['\uFFFD']
  | started, b :: rest =>
    let (out, started) :=
      match started with
      | none => startByte b
      | some u => nextByte u b
    out ++ lossyFrom started rest

/-- The characters of bytes in UTF-8, whatever the bytes are. -/
def utf8Lossy (bytes : List UInt8) : Text :=
  lossyFrom none bytes

end Encoding
end AsmAtlas
