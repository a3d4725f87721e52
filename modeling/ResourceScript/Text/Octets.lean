import ResourceScript.Text.Basic

/-!
# Texts from octets

Decodes the octets of a text, one to four for each character.  The first octet of a character
tells how many follow.  Overlong forms, surrogates and numbers beyond the last character are
refused.

## Main definitions

* `Text.ofOctets?` : the text of a sequence of octets.
-/

namespace ResourceScript.Text

/-- The number of octets after the first one of a character, the payload of the first one, and the
least code point that is not overlong. -/
def leadOctet? (b : Nat) : Option (Nat × Nat × Nat) :=
  if b < 0x80 then some (0, b, 0)
  else if b < 0xc0 then none
  else if b < 0xe0 then some (1, b - 0xc0, 0x80)
  else if b < 0xf0 then some (2, b - 0xe0, 0x800)
  else if b < 0xf8 then some (3, b - 0xf0, 0x10000)
  else none

/-- The character of a code point that is at least `least`. -/
def charAtLeast? (least n : Nat) : Option Char :=
  if n < least then none
  else if h : n.isValidChar then some (Char.ofNatAux n h) else none

/-- Decodes octets.  Of a character that has begun, `missing` octets are still to come, `value` is
its payload so far, and `least` is the least code point that it may have. -/
def ofOctetsFrom? (missing value least : Nat) : List UInt8 → Option Text
  | [] => if missing = 0 then some [] else none
  | b :: bs =>
    match missing with
    | 0 =>
      match leadOctet? b.toNat with
      | none => none
      | some (0, payload, _) => (ofOctetsFrom? 0 0 0 bs).map (Char.ofNat payload :: ·)
      | some (n + 1, payload, l) => ofOctetsFrom? (n + 1) payload l bs
    | n + 1 =>
      if b.toNat / 64 ≠ 2 then none
      else
        let total := value * 64 + b.toNat % 64
        if n = 0 then
          match charAtLeast? least total with
          | none => none
          | some c => (ofOctetsFrom? 0 0 0 bs).map (c :: ·)
        else ofOctetsFrom? n total least bs

/-- The text of a sequence of octets. -/
def ofOctets? (bytes : List UInt8) : Option Text := ofOctetsFrom? 0 0 0 bytes

end ResourceScript.Text
