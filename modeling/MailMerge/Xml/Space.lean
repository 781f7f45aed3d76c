import MailMerge.Text.Blank
import MailMerge.Xml.Basic

/-!
# `MailMerge.Xml.Space`: texts that keep their white space

White space at the ends of a text element is lost in display unless an attribute asks to keep it.
-/

set_option autoImplicit false

namespace MailMerge.Xml

namespace Element

/-- The attribute that keeps white space at the ends of a text. -/
def spaceAttribute : String := "xml:space"

/-- The element with a new text; white space at its ends is marked to be kept. -/
def showText (e : Element) (value : String) : Element :=
  if Text.hasBlankEnd value then (e.setText value).setAttribute spaceAttribute "preserve"
  else e.setText value

theorem name_showText (e : Element) (value : String) : (e.showText value).name = e.name := by
  unfold showText
  split <;> rfl

theorem text_showText (e : Element) (value : String) : (e.showText value).text = value := by
  unfold showText
  split
  · exact text_setText e value
  · exact text_setText e value

end Element

end MailMerge.Xml
