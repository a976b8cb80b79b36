import LiveTabs.Text.Attribute
import LiveTabs.Text.Utf8
/-!
The markup around what a view renders: the root element that carries the id of its page or
component, and the document of a freshly opened tab.
-/
namespace LiveTabs.Markup

def rootElement (id : String) (body : Bytes) : String :=
  "<div id=\"" ++ Text.Attribute.escape id ++ "\">" ++ Text.Utf8.decode body ++ "</div>"

def scriptTag (source : String) : String :=
  "<script type=\"module\" src=\"" ++ Text.Attribute.escape source ++ "\"></script>"

def document (connection : String) (clientScript : Option String) (root : String) : String :=
  "<!DOCTYPE html><html><head><meta charset=\"utf-8\"><meta name=\"tabsync-connection\" content=\"" ++
    Text.Attribute.escape connection ++ "\">" ++ (clientScript.map scriptTag).getD "" ++
    "</head><body data-tabsync-connection=\"" ++ Text.Attribute.escape connection ++ "\">" ++
    root ++ "</body></html>"

end LiveTabs.Markup
