/-!
# Digits

* `Digits.value?` : the value of a digit in a base up to 36;
* `Digits.number?` : the number that a run of digits writes.
-/

namespace EnvInject.Digits

/-- The value of a digit; letters of either case follow the decimal digits. -/
def value? (base : Nat) (c : Char) : Option Nat :=
  let value? : Option Nat :=
    if '0' ≤ c ∧ c ≤ '9' then some (c.toNat - 48)
    else if 'a' ≤ c ∧ c ≤ 'z' then some (c.toNat - 87)
    else if 'A' ≤ c ∧ c ≤ 'Z' then some (c.toNat - 55)
    else none
  value?.filter (· < base)

def number? (base : Nat) (cs : List Char) : Option Nat :=
  if cs.isEmpty then none
  else cs.foldlM (fun n c => (value? base c).map (n * base + ·)) 0

end EnvInject.Digits
