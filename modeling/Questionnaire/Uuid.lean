import Questionnaire.IdSource
/-!
Identifiers that look like random UUIDs.
-/

namespace Questionnaire.Uuid

def scatter (word : UInt64) : UInt64 :=
  let word := (word ^^^ (word >>> 30)) * 0xbf58476d1ce4e5b9
  let word := (word ^^^ (word >>> 27)) * 0x94d049bb133111eb
  word ^^^ (word >>> 31)

def hexDigits (count n : Nat) : List Char :=
  let digits := Nat.toDigits 16 n
  List.replicate (count - digits.length) '0' ++ digits

def text (high low : UInt64) : String :=
  let high := (high &&& 0xffffffffffff0fff) ||| 0x4000
  let low := (low &&& 0x3fffffffffffffff) ||| 0x8000000000000000
  let digits := hexDigits 16 high.toNat ++ hexDigits 16 low.toNat
  String.ofList (digits.take 8 ++ '-' :: (digits.drop 8).take 4 ++ '-' :: (digits.drop 12).take 4 ++
    '-' :: (digits.drop 16).take 4 ++ '-' :: digits.drop 20)

def source (high low : UInt64) : IdSource where
  id n := text (scatter (high + 0x9e3779b97f4a7c15 * n.toUInt64))
    (scatter (low + 0x9e3779b97f4a7c15 * n.toUInt64))

end Questionnaire.Uuid
