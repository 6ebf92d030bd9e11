import ReportDelivery.Text.Basic

/-! Base64 text: four characters for each three bytes, padded with `=`. -/
namespace ReportDelivery.Base64

/-- The character for a six-bit number. -/
def character (n : Nat) : CodePoint :=
  .char <|
    if n < 26 then Char.ofNat (65 + n)
    else if n < 52 then Char.ofNat (71 + n)
    else if n < 62 then Char.ofNat (n - 4)
    else if n = 62 then '+' else '/'

def encode : Bytes → Text
  | [] => []
  | [a] =>
    let n := a.toNat * 16
    [character (n / 64), character (n % 64), .char '=', .char '=']
  | [a, b] =>
    let n := (a.toNat * 256 + b.toNat) * 4
    [character (n / 4096), character (n / 64 % 64), character (n % 64), .char '=']
  | a :: b :: c :: rest =>
    let n := (a.toNat * 256 + b.toNat) * 256 + c.toNat
    character (n / 262144) :: character (n / 4096 % 64) :: character (n / 64 % 64)
      :: character (n % 64) :: encode rest

end ReportDelivery.Base64
