import ReportDelivery.Text.Printable

/-! Quoted text, as diagnostics show it.

The quote is `'`, or `"` when the text holds `'` and no `"`. The backslash, the quote and
everything that is not printable are escaped; the escape is as short as its number allows. -/
namespace ReportDelivery.Text

def quoteOf (t : Text) : Char :=
  if t.contains (.char '\'') && !t.contains (.char '"') then '"' else '\''

def quoteCodePoint (quote : Char) (c : CodePoint) : Text :=
  if c = .char quote || c = .char '\\' then [.char '\\', c]
  else if c = .char '\n' then "\\n"
  else if c = .char '\r' then "\\r"
  else if c = .char '\t' then "\\t"
  else if isPrintable c then [c]
  else
    let n := c.toNat
    if n < 0x100 then "\\x" ++ ofHex 2 n
    else if n < 0x10000 then "\\u" ++ ofHex 4 n
    else "\\U" ++ ofHex 8 n

def quoted (t : Text) : Text :=
  let quote := quoteOf t
  .char quote :: t.flatMap (quoteCodePoint quote) ++ [.char quote]

/-- Bytes as diagnostics show them: ASCII where printable, else two hexadecimal digits. -/
def quotedBytes (bytes : Bytes) : Text :=
  let text : Text := bytes.map fun b => .char (Char.ofNat b.toNat)
  let quote := quoteOf text
  .char 'b' :: .char quote :: text.flatMap (fun c =>
    if c.toNat < 0x7F then quoteCodePoint quote c else "\\x" ++ ofHex 2 c.toNat)
    ++ [.char quote]

end ReportDelivery.Text
