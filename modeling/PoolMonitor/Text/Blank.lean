import PoolMonitor.Text.Ranges
/-!
# Blank characters and trimming

`isBlank` is the Unicode White_Space property: the ASCII controls from tab to carriage
return, space, next line, no-break space, ogham space mark, the spaces from en quad to hair
space, the line and paragraph separators, narrow no-break space, medium mathematical space and
ideographic space. `trim` removes blanks at both ends.

`isAsciiBlank` is the narrower set of space, tab, line feed, form feed and carriage return.
-/

namespace PoolMonitor.Text

/-- The code points with the Unicode White_Space property. -/
def whiteSpace : Ranges :=
  #[(0x9, 0xD), (0x20, 0x20), (0x85, 0x85), (0xA0, 0xA0), (0x1680, 0x1680), (0x2000, 0x200A),
    (0x2028, 0x2029), (0x202F, 0x202F), (0x205F, 0x205F), (0x3000, 0x3000)]

/-- Whether `c` has the Unicode White_Space property. -/
def isBlank (c : Char) : Bool := whiteSpace.contains c.toNat

example : isBlank ' ' = true := by decide +kernel

example : isBlank '　' = true := by decide +kernel

/-- Whether `c` is one of space, tab, line feed, form feed and carriage return. -/
def isAsciiBlank (c : Char) : Bool :=
  c = ' ' || c = '\t' || c = '\n' || c = '\x0c' || c = '\r'

/-- Drop the characters passing `p` from both ends of a character list. -/
def trimListBy (p : Char → Bool) (cs : List Char) : List Char :=
  ((cs.dropWhile p).reverse.dropWhile p).reverse

/-- `s` without White_Space characters at either end. -/
def trim (s : String) : String := String.ofList (trimListBy isBlank s.toList)

/-- `s` without ASCII blanks at either end. -/
def trimAscii (s : String) : String := String.ofList (trimListBy isAsciiBlank s.toList)

end PoolMonitor.Text
