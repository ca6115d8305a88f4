import Questionnaire.Json.Reading
import Questionnaire.Proofs.Decimal.Double
/-!
The numbers a text can spell. A number is finite or it is out of range; no text makes an infinite one.
-/

namespace Questionnaire.Json

open Decimal

theorem absorb_small {n : Nat} (small : n < 2 ^ 64) (row : List Char) : (absorb n row).1 < 2 ^ 64 := by
  induction row generalizing n with
  | nil => exact small
  | cons c row ih =>
    rw [absorb]
    split
    · rename_i fits
      exact ih fits
    · exact small

-- Each division takes off more than the halving that one division may add.
theorem scaleDown_below {x : Float} (below : Below 67 x.toModel.unpack) (places : Nat) :
    Below 68 (scaleDown x places).toModel.unpack := by
  induction x,places using scaleDown.induct with
  | case1 x places near =>
    rw [scaleDown,if_pos near]
    exact pack_below (div_below below (power_atLeast near) (by decide)) (by decide) (by decide)
  | case2 x places far zero =>
    rw [scaleDown,if_neg far,if_pos zero]
    obtain ⟨p,found,small⟩ := below
    exact ⟨p,found,Int.le_trans small (by decide)⟩
  | case3 x places far nonzero ih =>
    rw [scaleDown,if_neg far,if_neg nonzero]
    have large : AtLeast 2 (powerOfTen 308).toModel.unpack := by decide +kernel
    exact ih (pack_below (div_below below large (by decide)) (by decide) (by decide))

theorem scaled_finite {significand : Nat} (small : significand < 2 ^ 64) {places : Int} {x : Float}
    (found : scaled significand places = some x) : x.isFinite = true := by
  have whole : Below 67 (Float.ofNat significand).toModel.unpack := whole_below small
  rw [scaled] at found
  dsimp only at found
  split at found
  · cases found
    exact isFinite_of_below (scaleDown_below whole _)
  split at found
  · split at found
    · cases found
      exact isFinite_of_below whole
    · cases found
  · split at found
    · cases found
    · rename_i within infinite
      cases found
      obtain ⟨p,power,_⟩ := power_atLeast (n := places.toNat) (by omega)
      exact mul_finite (isFinite_of_below whole) (isFinite_iff_parts.mpr ⟨p,power⟩) (Bool.eq_false_iff.mpr infinite)

theorem whole_finite {n : Int} (small : n.natAbs < 2 ^ 64) : (Number.whole n).toFloat.isFinite = true := by
  rw [Number.toFloat,nearest]
  refine signed_finite ?_ _
  rw [magnitude]
  split
  · decide +kernel
  split
  · rename_i large
    have short : (toDigits n.natAbs).length ≤ 20 := (Nat.length_toDigits_le_iff (by decide) (by decide)).mpr (by omega)
    rw [largestPlace] at large
    omega
  split
  · decide +kernel
  · exact isFinite_of_below (whole_below small)

theorem Spelling.value_finite {spelling : Spelling} {n : Number} (found : spelling.value? = some n) :
    n.toFloat.isFinite = true := by
  rw [value?] at found
  split at found
  · rename_i short
    cases found
    simp only [Bool.and_eq_true,decide_eq_true_eq] at short
    exact whole_finite short.2
  split at found
  · rename_i short
    cases found
    simp only [Bool.and_eq_true,decide_eq_true_eq] at short
    refine whole_finite ?_
    have bound : Decimal.ofDigits spelling.whole ≤ 2 ^ 63 := short.2
    omega
  · obtain ⟨x,read,rfl⟩ := Option.map_eq_some_iff.mp found
    rw [double?] at read
    obtain ⟨y,scaled,rfl⟩ := Option.map_eq_some_iff.mp read
    refine signed_finite (scaled_finite ?_ scaled) _
    exact absorb_small (absorb_small (by decide) _) _
-- Of every number that stands in a tree and is in range.
mutual
def Tree.Each (P : Number → Prop) : Tree → Prop
  | .number (some n) => P n
  | .list items => items.Each P
  | .map members => members.Each P
  | _ => True
def Items.Each (P : Number → Prop) : Items → Prop
  | .cons item rest => item.Each P ∧ rest.Each P
  | _ => True
def Members.Each (P : Number → Prop) : Members → Prop
  | .cons _ value rest => value.Each P ∧ rest.Each P
  | _ => True
end

namespace Tree

variable {P : Number → Prop} {tokens : List Token}

theorem value_each (spelt : ∀ spelling n, Spelling.value? spelling = some n → P n)
    (smaller : ∀ rest, rest.length < tokens.length → (items rest).1.Each P ∧ (members rest).1.Each P) :
    (value tokens).1.Each P := by
  cases tokens with
  | nil =>
    rw [value]
    trivial
  | cons token rest =>
    cases token with
    | number spelling =>
      rw [value]
      cases read : spelling.value? with
      | none => trivial
      | some n => exact spelt spelling n read
    | openList =>
      cases rest with
      | nil =>
        rw [value.eq_def]
        trivial
      | cons token rest =>
        have inside := (smaller (token :: rest) (Nat.lt_succ_self _)).1
        rw [value.eq_def]
        cases token <;> first | exact inside | trivial
    | openMap =>
      cases rest with
      | nil =>
        rw [value.eq_def]
        trivial
      | cons token rest =>
        have inside := (smaller (token :: rest) (Nat.lt_succ_self _)).2
        rw [value.eq_def]
        cases token <;> first | exact inside | trivial
    | _ =>
      rw [value.eq_def]
      trivial

theorem items_each (item : (value tokens).1.Each P)
    (smaller : ∀ rest, rest.length < tokens.length → (items rest).1.Each P) : (items tokens).1.Each P := by
  rw [items]
  dsimp only
  split
  · exact ⟨item,trivial⟩
  · exact ⟨item,trivial⟩
  · exact ⟨item,trivial⟩
  · rename_i rest le _ _ _ _
    exact ⟨item,smaller rest le⟩
  · exact ⟨item,trivial⟩
  · exact ⟨item,trivial⟩

theorem members_each (smaller : ∀ rest, rest.length < tokens.length → (value rest).1.Each P ∧ (members rest).1.Each P) :
    (members tokens).1.Each P := by
  rw [members.eq_def]
  split
  · rename_i key rest
    cases rest with
    | nil => exact ⟨trivial,trivial⟩
    | cons token behind =>
      cases token with
      | colon =>
        have found := (smaller behind (Nat.lt_succ_of_lt (Nat.lt_succ_self _))).1
        dsimp only [Rest.within]
        split
        · exact ⟨found,trivial⟩
        · exact ⟨found,trivial⟩
        · exact ⟨found,trivial⟩
        · rename_i rest le _ _ _ _
          exact ⟨found,(smaller rest (Nat.lt_succ_of_lt le)).2⟩
        · exact ⟨found,trivial⟩
        · exact ⟨found,trivial⟩
      | comma =>
        dsimp only [Rest.all]
        split
        · exact ⟨trivial,trivial⟩
        · exact ⟨trivial,trivial⟩
        · exact ⟨trivial,trivial⟩
        · rename_i rest le _ _ _ _
          exact ⟨trivial,(smaller rest (Nat.lt_succ_of_lt le)).2⟩
        · exact ⟨trivial,trivial⟩
        · exact ⟨trivial,trivial⟩
      | _ => exact ⟨trivial,trivial⟩
  · trivial
  · trivial

-- Each part of the parser looks at fewer tokens than it was given before it turns to another.
theorem each_of_spelt (spelt : ∀ spelling n, Spelling.value? spelling = some n → P n) (tokens : List Token) :
    (value tokens).1.Each P ∧ (items tokens).1.Each P ∧ (members tokens).1.Each P := by
  induction length : tokens.length using Nat.strongRecOn generalizing tokens with
  | ind bound ih =>
    subst length
    have found := value_each spelt fun rest less => (ih _ less rest rfl).2
    exact ⟨found,items_each found fun rest less => (ih _ less rest rfl).2.1,
      members_each fun rest less => ⟨(ih _ less rest rfl).1,(ih _ less rest rfl).2.2⟩⟩

-- No number in it is infinite, and each is one.
def Finite (t : Tree) : Prop := t.Each fun n => n.toFloat.isFinite = true

end Tree

theorem Document.root_finite (text : List Char) : (Document.ofText text).root.Finite :=
  (Tree.each_of_spelt (fun _ _ found => Spelling.value_finite found) (Token.scan text)).1

end Questionnaire.Json
