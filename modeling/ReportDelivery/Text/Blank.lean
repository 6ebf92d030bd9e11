import ReportDelivery.Text.Basic

/-! White space and line boundaries.

`isBlank` is white space in the widest sense: Unicode's, with the four information separators
U+001C to U+001F. `strip` cuts it from both ends; `lines` cuts text at every line boundary. -/
namespace ReportDelivery

def CodePoint.isBlank (c : CodePoint) : Bool :=
  let n := c.toNat
  (9 ≤ n && n ≤ 13) || (0x1C ≤ n && n ≤ 0x20) || n == 0x85 || n == 0xA0 || n == 0x1680 ||
    (0x2000 ≤ n && n ≤ 0x200A) || n == 0x2028 || n == 0x2029 || n == 0x202F || n == 0x205F ||
    n == 0x3000

/-- Blank among the ASCII characters: tab, the line and page breaks, and the space. -/
def CodePoint.isAsciiBlank (c : CodePoint) : Bool :=
  let n := c.toNat
  (9 ≤ n && n ≤ 13) || n == 0x20

/-- A character that ends a line: line feed, vertical tab, form feed, carriage return, the
separators U+001C to U+001E, next line, and the line and paragraph separators. -/
def CodePoint.isLineEnd (c : CodePoint) : Bool :=
  let n := c.toNat
  (10 ≤ n && n ≤ 13) || (0x1C ≤ n && n ≤ 0x1E) || n == 0x85 || n == 0x2028 || n == 0x2029

namespace Text

def strip (t : Text) : Text := trimEnd CodePoint.isBlank (t.dropWhile CodePoint.isBlank)

/-- Neither empty nor white space only. -/
def hasContent (t : Text) : Bool := !t.all CodePoint.isBlank

/-- `line` is the part of the current line that is already read, last code point first. -/
def linesFrom (line : Text) : Text → List Text
  | [] => if line.isEmpty then [] else [line.reverse]
  | .char '\r' :: .char '\n' :: rest => line.reverse :: linesFrom [] rest
  | c :: rest =>
    if c.isLineEnd then line.reverse :: linesFrom [] rest else linesFrom (c :: line) rest

/-- The lines without their ends; carriage return and line feed together end one line, and an end
at the end of the text starts no further line. -/
def lines (t : Text) : List Text := linesFrom [] t

/-- Carriage returns, alone or before a line feed, become line feeds. -/
def unifyLineEnds : Text → Text
  | [] => []
  | .char '\r' :: .char '\n' :: rest => .char '\n' :: unifyLineEnds rest
  | .char '\r' :: rest => .char '\n' :: unifyLineEnds rest
  | c :: rest => c :: unifyLineEnds rest

end Text
end ReportDelivery
