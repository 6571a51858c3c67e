import ServiceApi.Environment.Variables
import ServiceApi.Text.Numeral

/-!
# Tuning the document cache

The capacity is a decimal number, or a hexadecimal one after `0x`. Zero, and a text that denotes no
size, stand for the default.
-/

namespace ServiceApi.Tuning

def defaultCacheSize : Nat := 64

/-- A size, which may have a plus sign but no minus, below `2 ^ 64`. -/
def size? (s : String) : Option Nat :=
  let unsigned? (base : Nat) (cs : List Char) : Option Nat := do
    let digits := match cs with
      | '+' :: digits => digits
      | digits => digits
    let n ← Text.numeral? base digits
    if n < 1 <<< 64 then some n else none
  match (Text.trim s).toList with
  | '0' :: 'x' :: digits => unsigned? 16 digits
  | digits => unsigned? 10 digits

def cacheSize (vars : Variables) : Nat :=
  (((vars.get? "ENDPOINTS_DOC_CACHE_SIZE").bind size?).filter (0 < ·)).getD defaultCacheSize

end ServiceApi.Tuning
