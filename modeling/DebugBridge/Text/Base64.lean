/-!
# Base64

The standard base64 alphabet with `=` padding: every three bytes become four characters,
and a last group of one or two bytes becomes two or three characters and padding.
-/

namespace DebugBridge.Text

set_option autoImplicit false

def base64Alphabet : List Char :=
  "ABCDEFGHIJKLMNOPQRSTUVWXYZabcdefghijklmnopqrstuvwxyz0123456789+/".toList

def base64Char (n : Nat) : Char :=
  base64Alphabet.getD (n % 64) 'A'

def base64Chars : List UInt8 → List Char
  | [] => []
  | [a] =>
    let x := a.toNat * 65536
    [base64Char (x / 262144), base64Char (x / 4096), '=', '=']
  | [a, b] =>
    let x := a.toNat * 65536 + b.toNat * 256
    [base64Char (x / 262144), base64Char (x / 4096), base64Char (x / 64), '=']
  | a :: b :: c :: rest =>
    let x := a.toNat * 65536 + b.toNat * 256 + c.toNat
    base64Char (x / 262144) :: base64Char (x / 4096) :: base64Char (x / 64) :: base64Char x ::
      base64Chars rest

/-- A byte string in base64. -/
def base64 (bs : List UInt8) : String :=
  String.ofList (base64Chars bs)

end DebugBridge.Text
