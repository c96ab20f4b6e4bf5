/-!
# Blanks

White space as the Unicode property `White_Space` delimits it, with trimming and
splitting of character lists by it.
-/

namespace ClusterTrace.Text

/-- The characters of the property `White_Space`. -/
def isBlank (c : Char) : Bool :=
  let code := c.toNat
  (9 ≤ code && code ≤ 13) || code = 0x20 || code = 0x85 || code = 0xA0 ||
    code = 0x1680 || (0x2000 ≤ code && code ≤ 0x200A) || code = 0x2028 ||
    code = 0x2029 || code = 0x202F || code = 0x205F || code = 0x3000

/-- The text without its leading blanks. -/
def trimStart (text : List Char) : List Char :=
  text.dropWhile isBlank

/-- The text without its trailing blanks. -/
def trimEnd (text : List Char) : List Char :=
  (text.reverse.dropWhile isBlank).reverse

/-- The text without leading and trailing blanks. -/
def trim (text : List Char) : List Char :=
  trimEnd (trimStart text)

/-- The maximal runs of characters that are not blank, in order. -/
def words : List Char → List (List Char)
  | [] => []
  | c :: rest =>
      if isBlank c then words rest
      else
        match rest, words rest with
        | next :: _, word :: more =>
            if isBlank next then [c] :: word :: more else (c :: word) :: more
        | _, more => [c] :: more

/-- The characters before the first line feed. -/
def firstLine (text : List Char) : List Char :=
  text.takeWhile (· != '\n')

end ClusterTrace.Text
