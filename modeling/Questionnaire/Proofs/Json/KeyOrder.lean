import Mathlib.Data.String.Basic
import Mathlib.Tactic.SplitIfs
import Questionnaire.Json.Sorted
/-!
The order of keys. Character by character it is the order of the bytes that keys are written with, since a lower
character is written with lower bytes.
-/

namespace Questionnaire.Json

open String (utf8EncodeChar)

-- Keys as readers compare them, byte by byte.
def keyBytes (key : String) : List UInt8 := key.toUTF8.data.toList

theorem keyBytes_eq_flatMap (key : String) : keyBytes key = key.toList.flatMap utf8EncodeChar := by
  have encoded : key.toByteArray = key.toList.utf8Encode := by
    rw [← String.toByteArray_ofList,String.ofList_toList]
  rw [keyBytes,String.toUTF8_eq_toByteArray,encoded,List.utf8Encode,List.data_toByteArray]

theorem utf8EncodeChar_lt {c d : Char} (less : c < d) (one two : List UInt8) :
    utf8EncodeChar c ++ one < utf8EncodeChar d ++ two := by
  have less : c.val.toNat < d.val.toNat := less
  have bound : d.val.toNat < 0x110000 := by
    have valid : d.val.toNat < 0xd800 ∨ 0xdfff < d.val.toNat ∧ d.val.toNat < 0x110000 := d.valid
    omega
  dsimp only [utf8EncodeChar]
  generalize c.val.toNat = c at less
  generalize d.val.toNat = d at less bound
  split_ifs <;>
    simp only [List.cons_append,List.nil_append,List.cons_lt_cons_iff,UInt8.lt_iff_toNat_lt,← UInt8.toNat_inj,
      UInt8.toNat_ofNat'] <;>
    simp (disch := omega) only [Nat.mod_eq_of_lt] <;> omega

theorem flatMap_utf8EncodeChar_lt {one two : List Char} (less : one < two) :
    one.flatMap utf8EncodeChar < two.flatMap utf8EncodeChar := by
  induction less with
  | nil =>
    rename_i d two
    cases written : utf8EncodeChar d with
    | nil => exact absurd written String.utf8EncodeChar_ne_nil
    | cons byte rest =>
      rw [List.flatMap_cons,written]
      exact List.nil_lt_cons _ _
  | rel lower =>
    rw [List.flatMap_cons,List.flatMap_cons]
    exact utf8EncodeChar_lt lower _ _
  | cons _ ih =>
    rw [List.flatMap_cons,List.flatMap_cons]
    exact List.append_left_lt ih

theorem keyBytes_lt_iff {one two : String} : keyBytes one < keyBytes two ↔ compare one two = .lt := by
  have ordered : compare one two = .lt ↔ one.toList < two.toList := compareOfLessAndEq_eq_lt
  rw [ordered,keyBytes_eq_flatMap,keyBytes_eq_flatMap]
  refine ⟨fun less => ?_,flatMap_utf8EncodeChar_lt⟩
  rcases lt_trichotomy one.toList two.toList with lower | same | higher
  · exact lower
  · rw [same] at less
    exact absurd less (List.lt_irrefl _)
  · exact absurd less (List.lt_asymm (flatMap_utf8EncodeChar_lt higher))

end Questionnaire.Json
