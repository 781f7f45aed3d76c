import MailMerge.Text.Utf8
import MailMerge.Xml.Error

/-!
# `MailMerge.Xml.Reference`: references to characters

Character data and attribute values hold `&lt;`, `&gt;`, `&amp;`, `&quot;`, `&apos;` and references
by number. `decode` replaces them; `encodeText` and `encodeValue` write the characters that cannot
stand for themselves. Decoding what was encoded gives the text back.
-/

set_option autoImplicit false

namespace MailMerge.Xml.Reference

open MailMerge.Text

/-- The value of a digit in a base of at most sixteen. -/
def digitValue? (base : Nat) (c : Char) : Option Nat :=
  let value? :=
    if c.isDigit then some (c.toNat - '0'.toNat)
    else if 'a' ≤ c ∧ c ≤ 'f' then some (c.toNat - 'a'.toNat + 10)
    else if 'A' ≤ c ∧ c ≤ 'F' then some (c.toNat - 'A'.toNat + 10)
    else none
  value?.filter (· < base)

/-- The number that digits add to one already read. Digits are checked one by one, and a number of
more than 32 bits is too large. -/
def readDigits (base value : Nat) : List Char → Except CharacterFault Nat
  | [] => .ok value
  | c :: cs =>
    match digitValue? base c with
    | none => .error .badDigit
    | some digit =>
      if value * base + digit < 0x100000000 then readDigits base (value * base + digit) cs
      else .error .tooLarge

/-- The number written by digits alone. -/
def readNumber (base : Nat) : List Char → Except CharacterFault Nat
  | [] => .error .empty
  | c :: cs => if c = '+' ∨ c = '-' then .error .sign else readDigits base 0 (c :: cs)

/-- The code point that a reference by number names, after its `#`. -/
def readCode : List Char → Except CharacterFault Nat
  | 'x' :: cs => readNumber 16 cs
  | cs => readNumber 10 cs

/-- The character that a reference by number names, after its `#`. -/
def readCharacter (cs : List Char) : Except CharacterFault Char :=
  match readCode cs with
  | .error fault => .error fault
  | .ok code =>
    if code = 0 then .error .zero
    else if code.isValidChar then .ok (Char.ofNat code)
    else .error (.notACodepoint code)

/-- The character of a predefined entity. -/
def entity? (name : List Char) : Option Char :=
  if name = ['l', 't'] then some '<'
  else if name = ['g', 't'] then some '>'
  else if name = ['a', 'm', 'p'] then some '&'
  else if name = ['a', 'p', 'o', 's'] then some '\''
  else if name = ['q', 'u', 'o', 't'] then some '"'
  else none

/-- The character that a reference names, whose name begins at a position. -/
def resolve (position : Nat) (name : List Char) : Except ReferenceFault Char :=
  match name with
  | '#' :: code => (readCharacter code).mapError .character
  | _ =>
    match entity? name with
    | some c => .ok c
    | none => .error (.unknownEntity position (position + byteSize name) (.ofList name))

/-- Whether a character can stand in the name of a reference. -/
def inName (c : Char) : Bool := c != '&' && c != ';'

/-- Text with its references replaced, for text that begins at a position. A reference without an
end runs to the end of the text. -/
def decodeFrom (position : Nat) : List Char → Except ReferenceFault (List Char)
  | [] => .ok []
  | c :: cs =>
    if c = '&' then
      let name := cs.takeWhile inName
      match h : cs.dropWhile inName with
      | ';' :: rest =>
        match resolve (position + 1) name with
        | .error fault => .error fault
        | .ok c => (decodeFrom (position + byteSize name + 2) rest).map (c :: ·)
      | _ => .error (.unterminated position (position + 1 + byteSize cs))
    else (decodeFrom (position + c.utf8Size) cs).map (c :: ·)
termination_by cs => cs.length
decreasing_by
  · have := (List.dropWhile_suffix (l := cs) inName).length_le
    simp_all
    omega
  · simp

/-- Text with its references replaced. -/
def decode (cs : List Char) : Except ReferenceFault (List Char) := decodeFrom 0 cs

/-- A character of character data as it is written. -/
def encodeTextChar (c : Char) : List Char :=
  if c = '<' then ['&', 'l', 't', ';']
  else if c = '>' then ['&', 'g', 't', ';']
  else if c = '&' then ['&', 'a', 'm', 'p', ';']
  else [c]

/-- A character of an attribute value as it is written. -/
def encodeValueChar (c : Char) : List Char :=
  if c = '\'' then ['&', 'a', 'p', 'o', 's', ';']
  else if c = '"' then ['&', 'q', 'u', 'o', 't', ';']
  else encodeTextChar c

/-- Character data as it is written. -/
def encodeText (cs : List Char) : List Char := cs.flatMap encodeTextChar

/-- An attribute value as it is written. -/
def encodeValue (cs : List Char) : List Char := cs.flatMap encodeValueChar

end MailMerge.Xml.Reference
