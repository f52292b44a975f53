namespace RenderTemplate.Text

/-- White space in the sense of Unicode. It delimits attributes, and is trimmed from expressions. -/
def isBlankChar (c : Char) : Bool :=
  let code := c.toNat
  (9 ≤ code && code ≤ 13) || code == 0x20 || code == 0x85 || code == 0xA0 || code == 0x1680 ||
    (0x2000 ≤ code && code ≤ 0x200A) || code == 0x2028 || code == 0x2029 || code == 0x202F ||
    code == 0x205F || code == 0x3000

/-- White space in the sense of HTML: space, tab, carriage return, line feed and form feed. -/
def isHtmlSpace (c : Char) : Bool :=
  c == ' ' || c == '\t' || c == '\r' || c == '\n' || c == '\x0c'

/-- The text from its first character that is not blank. -/
def trimLeft (chars : List Char) : List Char :=
  chars.dropWhile isBlankChar

/-- The text up to its last character that is not blank. -/
def trimRight (chars : List Char) : List Char :=
  (chars.reverse.dropWhile isBlankChar).reverse

/-- The text without the blanks at its ends. -/
def trimList (chars : List Char) : List Char :=
  trimRight (trimLeft chars)

/-- The text without the blanks at its ends. -/
def trim (text : String) : String :=
  String.ofList (trimList text.toList)

/-- Whether a text has blanks only. -/
def isBlank (text : String) : Bool :=
  text.toList.all isBlankChar

/-- Whether a text has white space of HTML only. -/
def isHtmlBlank (text : String) : Bool :=
  text.toList.all isHtmlSpace

/-- Each run of HTML white space becomes one space; `inRun` says that the character before belongs
to a run. -/
def collapseList (inRun : Bool) : List Char → List Char
  | [] => []
  | c :: rest =>
    if isHtmlSpace c then
      if inRun then collapseList true rest else ' ' :: collapseList true rest
    else c :: collapseList false rest

@[simp] theorem collapseList_nil (inRun : Bool) : collapseList inRun [] = [] := rfl

/-- Of white space, the first character of a run becomes a space. -/
@[simp] theorem collapseList_cons_space {c : Char} (white : isHtmlSpace c) (inRun : Bool)
    (rest : List Char) :
    collapseList inRun (c :: rest) = if inRun then collapseList true rest else ' ' ::
      collapseList true rest :=
  if_pos white

@[simp] theorem collapseList_cons_other {c : Char} (other : isHtmlSpace c = false) (inRun : Bool)
    (rest : List Char) :
    collapseList inRun (c :: rest) = c :: collapseList false rest :=
  if_neg (by simp [other])

/-- Each run of HTML white space becomes one space. -/
def collapseSpaces (text : String) : String :=
  String.ofList (collapseList false text.toList)

end RenderTemplate.Text
