import MailMerge.Xml.Basic
import MailMerge.Xml.Reference

/-!
# `MailMerge.Xml.Printer`: documents as text

An element without nodes is written as one tag. Text and attribute values are encoded, all other
markup is written as it was read.
-/

set_option autoImplicit false

namespace MailMerge.Xml

/-- The source of markup. -/
def Markup.print : Markup → List Char
  | .comment body => "<!--".toList ++ body.toList ++ "-->".toList
  | .cdata body => "<![CDATA[".toList ++ body.toList ++ "]]>".toList
  | .instruction body => "<?".toList ++ body.toList ++ "?>".toList
  | .declaration body => "<?".toList ++ body.toList ++ "?>".toList
  | .doctype body => "<!DOCTYPE ".toList ++ body.toList ++ ">".toList
  | .characters raw => raw.toList

/-- The source of an attribute, with a space before it. -/
def Attribute.print (a : Attribute) : List Char :=
  ' ' :: a.name.toList ++ '=' :: '"' :: Reference.encodeValue a.value.toList ++ ['"']

/-- The source of a tag's content. -/
def Tag.print (tag : Tag) : List Char :=
  tag.name.toList ++ tag.attributes.flatMap Attribute.print

/-- The source of an element around the source of its content. -/
def Tag.enclose (tag : Tag) (isEmpty : Bool) (content : List Char) : List Char :=
  if isEmpty then '<' :: tag.print ++ ['/', '>']
  else '<' :: tag.print ++ '>' :: content ++ '<' :: '/' :: tag.name.toList ++ ['>']

mutual

/-- The source of a node. -/
def Node.print : Node → List Char
  | .element tag children => tag.enclose children.isEmpty (Node.printAll children)
  | .text value => Reference.encodeText value.toList
  | .markup kept => kept.print

/-- The source of nodes. -/
def Node.printAll : List Node → List Char
  | [] => []
  | node :: nodes => node.print ++ Node.printAll nodes

end

/-- The source of an element. -/
def Element.print (e : Element) : String := .ofList e.toNode.print

/-- The source of a document. -/
def Document.print (d : Document) : String :=
  .ofList (d.prolog.flatMap Markup.print ++ d.root.toNode.print ++ d.epilog.flatMap Markup.print)

end MailMerge.Xml
