/-!
# Text containment

`containsText hay needle` holds when `needle` occurs in `hay` as a run of consecutive
characters; the empty text occurs in every text. For UTF-8 text this is the same as finding
the needle's bytes among the hay's bytes, as no character's bytes start inside another's.
-/

namespace PoolMonitor.Text

/-- Whether `needle` occurs in `hay` as consecutive characters. -/
def containsText (hay needle : String) : Bool :=
  let n := needle.toList
  let rec go : List Char → Bool
    | [] => n.isEmpty
    | c :: rest => n.isPrefixOf (c :: rest) || go rest
  go hay.toList

/-- ASCII letters in lower case; other characters unchanged. -/
def asciiLower (c : Char) : Char := if 'A' ≤ c ∧ c ≤ 'Z' then Char.ofNat (c.toNat + 32) else c

/-- Whether two texts are equal when ASCII letters are compared without case. -/
def equalsIgnoringAsciiCase (a b : String) : Bool :=
  a.toList.map asciiLower == b.toList.map asciiLower

end PoolMonitor.Text
