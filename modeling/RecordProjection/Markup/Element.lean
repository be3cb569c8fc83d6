/-!
Elements of a markup tree. The text of an element is the text before its first child; text after a
child means nothing here and is not kept.
-/

namespace RecordProjection.Markup

structure Element where
  tag : String
  /-- Names and values, each name once. -/
  attributes : List (String × String) := []
  text : String := ""
  children : List Element := []

namespace Element

def attribute? (element : Element) (name : String) : Option String :=
  element.attributes.lookup name

def childrenTagged (element : Element) (tag : String) : List Element :=
  element.children.filter fun child => child.tag == tag

def childTagged? (element : Element) (tag : String) : Option Element :=
  element.children.find? fun child => child.tag == tag

end Element

end RecordProjection.Markup
