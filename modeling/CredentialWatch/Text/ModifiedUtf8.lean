import CredentialWatch.Text.Utf16

/-!
# Modified UTF-8

The form that Java gives a text in a data stream: its UTF-16 units, each in one to three bytes. It
is the UTF-8 form but for two kinds of characters. NUL takes two bytes, and a character beyond
U+FFFF takes six, three for each of its surrogates. Read as UTF-8, none of these bytes is part of a
character.
-/
namespace CredentialWatch.Text.ModifiedUtf8

/-- The bytes of a UTF-16 unit, none of which is zero. -/
def encodeUnit (unit : Nat) : Bytes :=
  if 0 < unit ∧ unit < 0x80 then [UInt8.ofNat unit]
  else if unit < 0x800 then [UInt8.ofNat (0xC0 + unit / 64), UInt8.ofNat (0x80 + unit % 64)]
  else
    [UInt8.ofNat (0xE0 + unit / 4096), UInt8.ofNat (0x80 + unit / 64 % 64),
      UInt8.ofNat (0x80 + unit % 64)]

/-- The bytes of a character. -/
def encodeChar (char : Char) : Bytes :=
  (Utf16.units char).flatMap encodeUnit

/-- The form of a text. -/
def encode (text : String) : Bytes :=
  text.toList.flatMap encodeChar

/-- A character whose bytes are those of UTF-8. -/
def IsPlain (char : Char) : Prop :=
  0 < char.toNat ∧ char.toNat < 0x10000

instance : DecidablePred IsPlain := fun _ => inferInstanceAs (Decidable (_ ∧ _))

/-- What shows of a character when its bytes are read as UTF-8: itself, or U+FFFD for each byte. -/
def shown (char : Char) : List Char :=
  if IsPlain char then [char] else List.replicate (encodeChar char).length '\uFFFD'

/-- What is read of a text when its form is taken for UTF-8. -/
def readAsUtf8 (text : String) : String :=
  String.ofList (text.toList.flatMap shown)

end CredentialWatch.Text.ModifiedUtf8
