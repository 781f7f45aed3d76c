import MailMerge.Archive.BitReader

/-!
# `MailMerge.Archive.PrefixCode`: codes given by the lengths of their words

Words of one length are consecutive numbers in the order of their symbols, and a shorter word comes
before those that are longer, so lengths alone say what the words are.
-/

set_option autoImplicit false

namespace MailMerge

/-- A code whose words are given by their lengths. -/
structure PrefixCode where
  /-- How many words there are of each length from one on. -/
  counts : List Nat
  /-- Symbols in the order of their words. -/
  symbols : Array Nat

namespace PrefixCode

/-- Lengths that a word may have. -/
def wordLengths : List Nat := (List.range 16).drop 1

/-- The symbols whose words have a length. -/
def symbolsOf (lengths : List Nat) (n : Nat) : List Nat :=
  lengths.zipIdx.filterMap fun (length, symbol) => if length = n then some symbol else none

/-- The code of the lengths of words by symbol; symbols of length zero have no word. -/
def ofLengths (lengths : List Nat) : PrefixCode where
  counts := wordLengths.map (lengths.count ·)
  symbols := (wordLengths.flatMap (symbolsOf lengths)).toArray

/-- Reads a word bit by bit. `offset` is the distance of what was read from the first word that is
longer than those tried, and `shorter` counts the words tried. -/
def readFrom (symbols : Array Nat) (offset shorter : Nat) :
    List Nat → BitReader → Option (Nat × BitReader)
  | [], _ => none
  | count :: counts, r =>
    match r.bit? with
    | none => none
    | some (b, r) =>
      let offset := 2 * offset + b
      if offset < count then symbols[shorter + offset]?.map (·, r)
      else readFrom symbols (offset - count) (shorter + count) counts r

/-- Reads a word: its symbol. -/
def read? (code : PrefixCode) (r : BitReader) : Option (Nat × BitReader) :=
  readFrom code.symbols 0 0 code.counts r

end PrefixCode

end MailMerge
