import Acop.Json

/-! Python's text handling, as far as the program uses it. -/
namespace Acop

/-- The parts of Python's text handling that no statement here depends on in
detail. `int` is `none` where the constructor raises `ValueError`. -/
structure Text where
  lower : String → String
  isDigit : String → Bool
  int : String → Option Int
  str : Json → String

def isSpace (char : Char) : Bool :=
  char.toNat ∈ [0x9,0xa,0xb,0xc,0xd,0x1c,0x1d,0x1e,0x1f,0x20,0x85,0xa0,0x1680,0x2028,0x2029,0x202f,0x205f,0x3000] ||
  (0x2000 ≤ char.toNat && char.toNat ≤ 0x200a)

/-- `str.strip()`. -/
def strip (text : String) : String :=
  String.ofList (((text.toList.dropWhile isSpace).reverse.dropWhile isSpace).reverse)

end Acop
