import ChatRules.Json.Printer
import ChatRules.Rule

namespace ChatRules.Identifier

def hexDigits : Nat → Nat → List Char
  | 0, _ => []
  | k + 1, n => hexDigits k (n / 16) ++ [Json.hexDigit (n % 16)]

def ofNat (n : Nat) : String :=
  let s := hexDigits 32 n
  String.ofList (s.take 8 ++ '-' :: (s.drop 8).take 4 ++ '-' :: (s.drop 12).take 4 ++
    '-' :: (s.drop 16).take 4 ++ '-' :: s.drop 20)

def stamps (base : Nat) (time : Instant) (n : Nat) : Stamp :=
  ⟨ofNat (base + n), time⟩

end ChatRules.Identifier
