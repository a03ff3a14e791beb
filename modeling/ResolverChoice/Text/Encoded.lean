/-
The bytes of a file read as text.

A well-formed UTF-8 sequence gives its character; a byte that starts none is
kept as it is, and reading goes on with the next byte.  A byte order mark is an
ordinary character.  After that a carriage return, alone or before a line feed,
becomes a line feed.
-/

import ResolverChoice.Text.Symbol

namespace ResolverChoice

def utf8Trailing? (byte : UInt8) : Option Nat :=
  if 0x80 ≤ byte.toNat ∧ byte.toNat ≤ 0xBF then some (byte.toNat - 0x80) else none

/-- The character of a sequence, unless a shorter sequence could have written
it or no character has that number. -/
def utf8Scalar? (least code : Nat) : Option Char :=
  if valid : code.isValidChar then
    if least ≤ code then some (Char.ofNatAux code valid) else none
  else none

/-- The character at the head of the bytes and the number of bytes that it
takes beyond the first. -/
def utf8Head? : List UInt8 → Option (Char × Nat)
  | [] => none
  | lead :: rest =>
      let lead := lead.toNat
      if lead < 0x80 then (utf8Scalar? 0 lead).map (·, 0)
      else if lead < 0xC0 then none
      else if lead < 0xE0 then
        match rest with
        | second :: _ => do
            let low ← utf8Trailing? second
            let character ← utf8Scalar? 0x80 ((lead - 0xC0) * 0x40 + low)
            return (character, 1)
        | _ => none
      else if lead < 0xF0 then
        match rest with
        | second :: third :: _ => do
            let middle ← utf8Trailing? second
            let low ← utf8Trailing? third
            let character ← utf8Scalar? 0x800 (((lead - 0xE0) * 0x40 + middle) * 0x40 + low)
            return (character, 2)
        | _ => none
      else if lead < 0xF8 then
        match rest with
        | second :: third :: fourth :: _ => do
            let high ← utf8Trailing? second
            let middle ← utf8Trailing? third
            let low ← utf8Trailing? fourth
            let character ← utf8Scalar? 0x10000
              ((((lead - 0xF0) * 0x40 + high) * 0x40 + middle) * 0x40 + low)
            return (character, 3)
        | _ => none
      else none

/-- Reads on after passing over the bytes of a character already read. -/
def Text.ofBytesAfter : Nat → List UInt8 → Text
  | _, [] => []
  | passed + 1, _ :: rest => Text.ofBytesAfter passed rest
  | 0, byte :: rest =>
      match utf8Head? (byte :: rest) with
      | some (character, extra) => .char character :: Text.ofBytesAfter extra rest
      | none => .stray byte :: Text.ofBytesAfter 0 rest

def Text.ofBytes (bytes : List UInt8) : Text :=
  Text.ofBytesAfter 0 bytes

/-- Writes every line end that has a carriage return as a line feed. -/
def Text.withLineFeeds : Text → Text
  | [] => []
  | .char '\r' :: .char '\n' :: rest => .char '\n' :: Text.withLineFeeds rest
  | .char '\r' :: rest => .char '\n' :: Text.withLineFeeds rest
  | symbol :: rest => symbol :: Text.withLineFeeds rest

def Text.ofFile (bytes : List UInt8) : Text :=
  Text.withLineFeeds (Text.ofBytes bytes)

end ResolverChoice
