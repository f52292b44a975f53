import RenderTemplate.Text.Search

namespace RenderTemplate

/-- Tags of HTML and SVG. -/
def documentTags : List String := [
  "a", "abbr", "address", "area", "article", "aside", "audio", "b", "base", "bdi", "bdo", "big",
    "blockquote",
  "body", "br", "button", "canvas", "caption", "cite", "code", "col", "colgroup", "data",
  "datalist", "dd", "del", "details", "dfn", "dialog", "div", "dl", "dt", "em", "embed", "fieldset",
  "figcaption", "figure", "footer", "form", "h1", "h2", "h3", "h4", "h5", "h6", "head", "header",
  "hgroup", "hr", "html", "i", "iframe", "img", "input", "ins", "kbd", "keygen", "label", "legend",
  "li", "link", "main", "map", "mark", "menu", "menuitem", "meta", "meter", "nav", "noscript",
  "object", "ol", "optgroup", "option", "output", "p", "param", "picture", "pre", "progress", "q",
  "rp", "rt", "ruby", "s", "samp", "script", "section", "select", "small", "source", "span",
  "strong", "style", "sub", "summary", "sup", "table", "tbody", "td", "textarea", "tfoot", "th",
  "thead", "time", "title", "tr", "track", "u", "ul", "var", "video", "wbr",
  "circle", "clipPath", "defs", "ellipse", "g", "image", "line", "linearGradient", "mask", "path",
  "pattern", "polygon", "polyline", "radialGradient", "rect", "stop", "svg", "text", "tspan"]

/-- Tags of elements that never have children. -/
def voidTags : List String := [
  "area", "base", "br", "col", "embed", "hr", "img", "input", "keygen", "link", "meta", "param",
    "source", "track",
  "wbr"]

/-- Components of every native platform. -/
def nativeTags : List String := [
  "ActivityIndicatorIOS", "DatePickerIOS", "DrawerLayoutAndroid", "Image", "ListView", "MapView",
    "Modal",
  "Navigator", "NavigatorIOS", "PickerIOS", "ProgressBarAndroid", "ProgressViewIOS",
  "RefreshControl", "ScrollView", "SegmentedControlIOS", "SliderIOS", "SnapshotViewIOS", "Switch",
  "SwitchAndroid", "SwitchIOS", "TabBarIOS", "Text", "TextInput", "ToolbarAndroid",
  "TouchableHighlight", "TouchableNativeFeedback", "TouchableOpacity", "TouchableWithoutFeedback",
  "View", "ViewPagerAndroid", "WebView"]

/-- Components that came with the separate native package. -/
def newNativeTags : List String := [
  "ActivityIndicator", "KeyboardAvoidingView", "Picker", "Slider", "StatusBar"]

/-- A tag with a hyphen that starts with a small letter. -/
def isCustomTag (tag : String) : Bool :=
  match tag.toList with
  | c :: rest => c.isLower && rest.contains '-'
  | [] => false

/-- A tag of the document, or a custom one. -/
def isDocumentTag (tag : String) : Bool :=
  documentTags.contains tag || isCustomTag tag

/-- The tag of an element that never has children. -/
def isVoidTag (tag : String) : Bool :=
  voidTags.contains tag

/-- The tag of an element whose content is plain text up to its closing tag. -/
def isRawTag (tag : String) : Bool :=
  tag == "script" || tag == "style"

/-- The tag of an element whose white space is kept. -/
def isPreservingTag (tag : String) : Bool :=
  tag == "pre" || tag == "textarea" || isRawTag tag

/-- A native component, with or without those of the separate package. -/
def isNativeTag (tag : String) (separatePackage : Bool) : Bool :=
  nativeTags.contains tag || (separatePackage && newNativeTags.contains tag)

/-- The prop that an attribute sets in a document. -/
def documentProp (name : String) : String :=
  if name == "class" then "className" else if name == "for" then "htmlFor" else name

end RenderTemplate
