import ProcessCompiler.Text.Ranges

/-!
# Blank characters

The Unicode property *White_Space*, and what is left of a text once the blanks at its ends are cut off.
-/

namespace ProcessCompiler.Text

/-- The code points with the property *White_Space*. -/
def blankRanges : Ranges := [
    (0x9, 0xd), (0x20, 0x20), (0x85, 0x85), (0xa0, 0xa0), (0x1680, 0x1680), (0x2000, 0x200a), (0x2028, 0x2029),
    (0x202f, 0x202f), (0x205f, 0x205f), (0x3000, 0x3000)]

theorem blankRanges_ascending : blankRanges.Ascending := ⟨by decide, by decide⟩

/-- A blank character. -/
def isBlank (c : Char) : Bool := blankRanges.has c.toNat

/-- The characters without the blanks at their end. -/
def trimEnd (cs : List Char) : List Char := (cs.reverse.dropWhile isBlank).reverse

/-- The characters without the blanks at either end. -/
def trimChars (cs : List Char) : List Char := trimEnd (cs.dropWhile isBlank)

/-- The text without the blanks at either end. -/
def trim (text : String) : String := String.ofList (trimChars text.toList)

/-- Whether the text holds nothing but blanks. -/
def isBlankText (text : String) : Bool := (trim text).isEmpty

end ProcessCompiler.Text
