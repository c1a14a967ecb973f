-- SUMMARY: Percent-encoding of text as UTF-8 octets, and the decoding that undoes it.
import Launcher.Text.Hex

/-!
# Percent-encoding

A text is written as its UTF-8 octets. ASCII letters and digits and the marks `_`, `.`,
`-`, `~` and `/` stand for themselves; every other octet is a percent sign and two
upper-case digits.
-/
namespace Launcher.Text.Percent

/-- Does the octet stand for itself? -/
def isPlain (b : UInt8) : Bool :=
  let c := Char.ofNat b.toNat
  b.toNat < 0x80 && (c.isAlphanum || c == '_' || c == '.' || c == '-' || c == '~' || c == '/')

/-- One octet, written. -/
def encodeOctet (b : UInt8) : List Char :=
  if isPlain b then [Char.ofNat b.toNat]
  else ['%', hexDigitUpper (b.toNat / 16), hexDigitUpper (b.toNat % 16)]

/-- A sequence of octets, written. -/
def encodeOctets (octets : List UInt8) : List Char := octets.flatMap encodeOctet

@[simp] theorem encodeOctets_nil : encodeOctets [] = [] := rfl
@[simp] theorem encodeOctets_cons (b : UInt8) (bs : List UInt8) :
    encodeOctets (b :: bs) = encodeOctet b ++ encodeOctets bs := rfl

/-- The octets that a written text stands for. A percent sign needs two digits after it. -/
def decodeOctets : List Char → Option (List UInt8)
  | [] => some []
  | '%' :: h :: l :: r =>
    match hexValue h, hexValue l with
    | some h, some l => (decodeOctets r).map (UInt8.ofNat (16 * h + l) :: ·)
    | _, _ => none
  | c :: r =>
    if c = '%' ∨ 0x80 ≤ c.toNat then none
    else (decodeOctets r).map (UInt8.ofNat c.toNat :: ·)

/-- The UTF-8 octets of a text. -/
def octetsOf (text : List Char) : List UInt8 := text.flatMap String.utf8EncodeChar

/-- A text, percent-encoded. -/
def encode (text : String) : String := String.ofList (encodeOctets (octetsOf text.toList))

/-- The text that was percent-encoded, if the octets are UTF-8. -/
def decode (text : String) : Option String :=
  (decodeOctets text.toList).bind fun octets => String.fromUTF8? ⟨octets.toArray⟩

end Launcher.Text.Percent
