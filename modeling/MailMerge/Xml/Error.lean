/-!
# `MailMerge.Xml.Error`: what can be wrong with a document

The causes, from the smallest piece of text to the whole document, each with its wording. Positions
are byte offsets into the text they are about.
-/

set_option autoImplicit false

namespace MailMerge.Xml

/-- Why a character reference names no character. -/
inductive CharacterFault where
  | zero
  | notACodepoint (code : Nat)
  | badDigit
  | tooLarge
  | empty
  | sign
deriving DecidableEq, Repr

def CharacterFault.message : CharacterFault → String
  | zero => "0x0 character is not permitted in XML"
  | notACodepoint code => "`" ++ toString code ++ "` is not a valid codepoint"
  | badDigit => "invalid digit found in string"
  | tooLarge => "number too large to fit in target type"
  | empty => "cannot parse integer from empty string"
  | sign => "unexpected number sign"

/-- Why references in a text cannot be decoded. -/
inductive ReferenceFault where
  | character (fault : CharacterFault)
  | unknownEntity (start stop : Nat) (name : String)
  | unterminated (start stop : Nat)
deriving DecidableEq, Repr

def ReferenceFault.message : ReferenceFault → String
  | character fault => "invalid character reference: " ++ fault.message
  | unknownEntity start stop name =>
    "at " ++ toString start ++ ".." ++ toString stop ++ ": unrecognized entity `" ++ name ++ "`"
  | unterminated start stop =>
    "Error while escaping character at range " ++ toString start ++ ".." ++ toString stop ++
      ": Cannot find ';' after '&'"

/-- Why the attributes of a tag cannot be read. -/
inductive AttributeFault where
  | equalsExpected (position : Nat)
  | valueExpected (position : Nat)
  | quoteExpected (position : Nat)
  | quoteUnclosed (position : Nat) (quote : Char)
  | duplicate (position earlier : Nat)
deriving DecidableEq, Repr

def AttributeFault.message : AttributeFault → String
  | equalsExpected position =>
    "position " ++ toString position ++
      ": attribute key must be directly followed by `=` or space"
  | valueExpected position =>
    "position " ++ toString position ++ ": `=` must be followed by an attribute value"
  | quoteExpected position =>
    "position " ++ toString position ++
      ": attribute value must be enclosed in `\"` or `'`"
  | quoteUnclosed position quote =>
    "position " ++ toString position ++ ": missing closing quote `" ++ quote.toString ++
      "` in attribute value"
  | duplicate position earlier =>
    "position " ++ toString position ++ ": duplicated attribute, previous declaration at position "
      ++ toString earlier

/-- Why markup cannot be read. -/
inductive MarkupFault where
  | tagUnclosed
  | commentUnclosed
  | cdataUnclosed
  | doctypeUnclosed
  | instructionUnclosed
  | unknownMarkup
  | doctypeUnnamed
  | endMismatched (expected found : String)
  | endUnmatched (found : String)
deriving DecidableEq, Repr

def MarkupFault.message : MarkupFault → String
  | tagUnclosed => unclosed "tag" ">"
  | commentUnclosed => unclosed "comment" "-->"
  | cdataUnclosed => unclosed "CDATA" "]]>"
  | doctypeUnclosed => unclosed "DOCTYPE" ">"
  | instructionUnclosed => unclosed "processing instruction or xml declaration" "?>"
  | unknownMarkup => "syntax error: unknown or missed symbol in markup"
  | doctypeUnnamed =>
    "ill-formed document: `<!DOCTYPE>` declaration does not contain a name of a document type"
  | endMismatched expected found =>
    "ill-formed document: expected `</" ++ expected ++ ">`, but `</" ++ found ++ ">` was found"
  | endUnmatched found =>
    "ill-formed document: close tag `</" ++ found ++ ">` does not match any open tag"
where
  /-- Wording for markup whose end is missing. -/
  unclosed (what ending : String) : String :=
    "syntax error: " ++ what ++ " not closed: `" ++ ending ++ "` not found before end of input"

/-- Why pieces that can be read make no tree. -/
inductive StructureFault where
  | elementUnclosed (name : String)
  | noRoot
  | secondRoot (name : String)
deriving DecidableEq, Repr

def StructureFault.message : StructureFault → String
  | elementUnclosed name => "unclosed element <" ++ name ++ ">"
  | noRoot => "document has no root element"
  | secondRoot name => "second root element <" ++ name ++ ">"

/-- What is wrong with a document. -/
inductive Error where
  | reference (fault : ReferenceFault)
  | tag (fault : AttributeFault)
  | markup (fault : MarkupFault)
  | tree (fault : StructureFault)
deriving DecidableEq, Repr

def Error.message : Error → String
  | reference fault => fault.message
  | tag fault => fault.message
  | markup fault => fault.message
  | tree fault => fault.message

end MailMerge.Xml
