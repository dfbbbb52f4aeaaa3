/-
**Blank characters and trimming.**

A character is blank when it has the Unicode property `White_Space`. Texts that name a choice are
compared after trimming blanks at both ends and lowering the ASCII letters.
-/

namespace ComputeHost.Text

/-- Whether the character has the property `White_Space`. -/
def isBlank (c : Char) : Bool :=
  (0x09 ≤ c.val && c.val ≤ 0x0D) || c.val == 0x20 || c.val == 0x85 || c.val == 0xA0 ||
    c.val == 0x1680 || (0x2000 ≤ c.val && c.val ≤ 0x200A) || c.val == 0x2028 || c.val == 0x2029 ||
    c.val == 0x202F || c.val == 0x205F || c.val == 0x3000

/-- The characters without the blanks in front and behind. -/
def trimChars (chars : List Char) : List Char :=
  ((chars.dropWhile isBlank).reverse.dropWhile isBlank).reverse

/-- The text without the blanks in front and behind. -/
def trim (text : String) : String := String.ofList (trimChars text.toList)

/-- Whether the text holds nothing but blanks. -/
def isAllBlank (text : String) : Bool := text.toList.all isBlank

/-- The text with its ASCII letters in lower case; other characters stay. -/
def lower (text : String) : String := String.ofList (text.toList.map Char.toLower)

/-- The form in which a choice is compared: trimmed, in lower case. -/
def choice (text : String) : String := lower (trim text)

end ComputeHost.Text
