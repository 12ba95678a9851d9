/-!
# Numerals

Hexadecimal text of addresses and the reading of a byte count: blanks around it, one optional
plus sign, decimal digits, and a value that fits in 64 bits (`readCount?`).
-/
namespace ScriptStreams.Text

/-- Lower-case hexadecimal digits, at least one. -/
def hexDigits (n : Nat) : List Char := Nat.toDigits 16 n

/-- `0x` and the hexadecimal digits. -/
def hex (n : Nat) : String := "0x" ++ String.ofList (hexDigits n)

/-- `0x` and at least `width` hexadecimal digits, filled with zeros. -/
def paddedHex (width n : Nat) : String :=
  let digits := hexDigits n
  "0x" ++ String.ofList (List.replicate (width - digits.length) '0' ++ digits)

/-- The code points with the property White_Space. -/
def isBlank (c : Char) : Bool :=
  (0x9 ≤ c.toNat && c.toNat ≤ 0xd) || c.toNat = 0x20 || c.toNat = 0x85 || c.toNat = 0xa0 ||
  c.toNat = 0x1680 || (0x2000 ≤ c.toNat && c.toNat ≤ 0x200a) || c.toNat = 0x2028 ||
  c.toNat = 0x2029 || c.toNat = 0x202f || c.toNat = 0x205f || c.toNat = 0x3000

/-- The characters between the outer blanks. -/
def trimBlanks (cs : List Char) : List Char :=
  ((cs.dropWhile isBlank).reverse.dropWhile isBlank).reverse

/-- The number below 2^64 that a nonempty list of decimal digits writes. -/
def decimal? : List Char → Option Nat
  | [] => none
  | cs => if cs.all Char.isDigit then
      let n := cs.foldl (fun n c => 10 * n + (c.toNat - '0'.toNat)) 0
      if n < UInt64.size then some n else none
    else none

/-- A byte count written in decimal, possibly with a plus sign and blanks around it: the scratch ceiling is read so
(`StreamConfig::from_lookup`). -/
def readCount? (text : String) : Option Nat :=
  match trimBlanks text.toList with
  | '+' :: digits => decimal? digits
  | digits => decimal? digits

-- one plus sign at most, and no other sign
example : readCount? " +007\n" = some 7 ∧ readCount? "++1" = none ∧ readCount? "-0" = none ∧ readCount? "+" = none := by
  decide

end ScriptStreams.Text
