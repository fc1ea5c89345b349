/-!
# Digits

* `digitValue`, `natOfDigits`, `readInt?` : decimal digits, which are ASCII digits only;
* `hexDigit?`, `natOfHex?`, `charOfHex?` : hexadecimal digits in either letter case.
-/

namespace SeriesQuery

/-! ## Decimal -/

def digitValue (d : Char) : Nat := d.toNat - '0'.toNat

def natOfDigits (digits : List Char) : Nat := digits.foldl (fun n d => 10 * n + digitValue d) 0

/-- An integer with an optional sign, digits only. -/
def readInt? : List Char → Option Int
  | '-' :: digits => nat? digits |>.map (-·)
  | '+' :: digits => nat? digits
  | digits => nat? digits
where
  nat? (digits : List Char) : Option Int :=
    if !digits.isEmpty && digits.all Char.isDigit then some (natOfDigits digits) else none

/-! ## Hexadecimal -/

def hexDigit? (c : Char) : Option Nat :=
  if c.isDigit then some (digitValue c)
  else if 'a' ≤ c ∧ c ≤ 'f' then some (c.toNat - 'a'.toNat + 10)
  else if 'A' ≤ c ∧ c ≤ 'F' then some (c.toNat - 'A'.toNat + 10)
  else none

def natOfHex? (digits : List Char) : Option Nat :=
  digits.foldlM (fun n d => (hexDigit? d).map (16 * n + ·)) 0

/-- The character of a code point; surrogates have none. -/
def charOfHex? (digits : List Char) : Option Char := do
  guard (!digits.isEmpty)
  let n ← natOfHex? digits
  if n.isValidChar then some (Char.ofNat n) else none

end SeriesQuery
