import Questionnaire.Decimal.Layout
import Questionnaire.Proofs.Decimal.Leading
import Questionnaire.Proofs.Decimal.Shortest
/-!
Written doubles read back. Whatever the layout, a finite double is written as one numeral and nothing else, and the
numeral is worth that double.
-/

namespace Questionnaire.Decimal

open Float.Model (Format UnpackedFloat totalExponent pack)
open Float.Model.UnpackedFloat hiding pack

theorem areDigits_toDigits (n : ℕ) : AreDigits (toDigits n) :=
  fun _ member => Nat.isDigit_of_mem_toDigits (by decide) (by decide) member

theorem areDigits_zeros (k : ℕ) : AreDigits (List.replicate k '0') := by
  intro c member
  rw [List.eq_of_mem_replicate member]
  decide

theorem ofDigits_eq (row : List Char) : ofDigits row = Nat.ofDigitChars 10 row 0 := rfl

theorem ofDigits_toDigits (n : ℕ) : ofDigits (toDigits n) = n := Nat.ofDigitChars_ten_toDigits

theorem ofDigits_zeros_append (k : ℕ) (row : List Char) : ofDigits (List.replicate k '0' ++ row) = ofDigits row := by
  rw [ofDigits_eq,Nat.ofDigitChars_append,Nat.ofDigitChars_replicate_zero,Nat.mul_zero]
  rfl

theorem ofDigits_append_zeros (row : List Char) (k : ℕ) :
    ofDigits (row ++ List.replicate k '0') = ofDigits row * 10 ^ k := by
  rw [ofDigits_eq,Nat.ofDigitChars_append,Nat.ofDigitChars_replicate_zero,Nat.mul_comm]
  rfl

-- Before or without a minus sign the text is one numeral, worth the double nearest to a value.
def Spells (text : List Char) (v : ℚ) : Prop :=
  ∀ negative : Bool, ∃ n : Numeral, n.WellFormed ∧ n.text = (if negative then ['-'] else []) ++ text ∧
    ∃ significand exponent, n.value = nearest negative significand exponent ∧ (significand : ℚ) * 10 ^ exponent = v

theorem spells_decimal {whole : List Char} {fraction : Option (List Char)} {power : Option Power}
    (digits : AreDigits whole) (some : whole ≠ []) (places : ∀ row ∈ fraction, AreDigits row)
    (powered : ∀ p ∈ power, p.WellFormed) :
    Spells (whole ++ fraction.elim [] ('.' :: ·) ++ power.elim [] Power.text)
      (ofDigits (whole ++ fraction.getD []) * 10 ^ (power.elim 0 Power.value - (fraction.getD []).length)) := by
  intro negative
  refine ⟨.decimal (if negative then ['-'] else []) whole fraction power,?_,?_,_,_,?_,rfl⟩
  · refine .decimal ?_ digits places (.inl some) powered
    cases negative
    · exact .inl rfl
    · exact .inr (.inr rfl)
  · rw [Numeral.text]
    simp only [List.append_assoc]
  · cases negative <;> rfl

variable {row places : List Char}

theorem spells_fraction (digits : AreDigits row) (some : row ≠ []) (digitsToo : AreDigits places) :
    Spells (row ++ '.' :: places) (ofDigits (row ++ places) * 10 ^ (-(places.length : ℤ))) := by
  have spelt := @spells_decimal row (.some places) none digits some (by rintro _ ⟨⟩; exact digitsToo) nofun
  simp only [Option.elim_some,Option.elim_none,Option.getD_some,List.append_nil,zero_sub] at spelt
  exact spelt

theorem spells_whole (digits : AreDigits row) (some : row ≠ []) : Spells row (ofDigits row) := by
  have spelt := @spells_decimal row none none digits some nofun nofun
  simp only [Option.elim_none,Option.getD_none,List.append_nil,List.length_nil,Nat.cast_zero,sub_zero,zpow_zero,mul_one]
    at spelt
  exact spelt

variable {place : ℤ}

theorem leadingZeros_spells (digits : AreDigits row) (small : place ≤ 0) :
    Spells ('0' :: '.' :: (List.replicate (-place).toNat '0' ++ row)) (ofDigits row * 10 ^ (place - row.length)) := by
  have zeros := areDigits_zeros (-place).toNat
  have spelt := spells_fraction (areDigits_zeros 1) (by decide) (List.forall_mem_append.mpr ⟨zeros,digits⟩)
  rw [ofDigits_zeros_append,ofDigits_zeros_append,List.length_append,List.length_replicate] at spelt
  have exponent : -(((-place).toNat + row.length : ℕ) : ℤ) = place - row.length := by omega
  rw [exponent] at spelt
  exact spelt

theorem pointed_spells (digits : AreDigits row) (some : row ≠ []) (above : 0 < place) (short : place.toNat < row.length) :
    Spells (row.take place.toNat ++ '.' :: row.drop place.toNat) (ofDigits row * 10 ^ (place - row.length)) := by
  have front : row.take place.toNat ≠ [] := by
    rw [Ne,List.take_eq_nil_iff,not_or]
    exact ⟨by omega,some⟩
  have spelt := spells_fraction (fun c member => digits c (List.mem_of_mem_take member)) front
    (fun c member => digits c (List.mem_of_mem_drop member) : AreDigits (row.drop place.toNat))
  have exponent : -((row.length - place.toNat : ℕ) : ℤ) = place - row.length := by omega
  rw [List.take_append_drop,List.length_drop,exponent] at spelt
  exact spelt

-- A point and a zero behind a whole number change nothing.
theorem trailingZeros_spells (digits : AreDigits row) (some : row ≠ []) (pointZero : Bool) (above : 0 < place)
    (long : row.length ≤ place.toNat) :
    Spells (row ++ List.replicate (place.toNat - row.length) '0' ++ (if pointZero then ['.','0'] else []))
      (ofDigits row * 10 ^ (place - row.length)) := by
  have whole : AreDigits (row ++ List.replicate (place.toNat - row.length) '0') :=
    List.forall_mem_append.mpr ⟨digits,areDigits_zeros _⟩
  have front : row ++ List.replicate (place.toNat - row.length) '0' ≠ [] := by simp [some]
  have power : ((ofDigits row * 10 ^ (place.toNat - row.length) : ℕ) : ℚ) = ofDigits row * 10 ^ (place - row.length) := by
    have exponent : place - row.length = (place.toNat - row.length : ℕ) := by omega
    rw [exponent,zpow_natCast]
    push_cast
    rfl
  cases pointZero with
  | false =>
    have spelt := spells_whole whole front
    rw [ofDigits_append_zeros,power] at spelt
    simpa using spelt
  | true =>
    have spelt := spells_fraction whole front (areDigits_zeros 1)
    rw [ofDigits_append_zeros,ofDigits_append_zeros,List.length_replicate,Nat.cast_mul,power] at spelt
    have last : ((10 ^ 1 : ℕ) : ℚ) * 10 ^ (-((1 : ℕ) : ℤ)) = 1 := by norm_num
    rw [mul_assoc,last,mul_one] at spelt
    exact spelt

theorem positional_spells (digits : AreDigits row) (some : row ≠ []) (pointZero : Bool) (place : ℤ) :
    Spells (positionalText pointZero row place) (ofDigits row * 10 ^ (place - row.length)) := by
  rw [positionalText]
  split
  · rename_i small
    exact leadingZeros_spells digits small
  rename_i above
  split
  · rename_i short
    exact pointed_spells digits some (not_le.mp above) short
  · rename_i long
    exact trailingZeros_spells digits some pointZero (not_le.mp above) (not_lt.mp long)

-- The power of ten behind the digits.
def writtenPower (power : ℤ) : Power := ⟨'e',[if power < 0 then '-' else '+'],toDigits power.natAbs⟩

theorem writtenPower_wellFormed (power : ℤ) : (writtenPower power).WellFormed := by
  refine ⟨.inl rfl,?_,areDigits_toDigits _,Nat.toDigits_ne_nil⟩
  rw [writtenPower]
  split
  · exact .inr (.inr rfl)
  · exact .inr (.inl rfl)

theorem writtenPower_value (power : ℤ) : (writtenPower power).value = power := by
  rw [writtenPower,Power.value]
  dsimp only
  rw [ofDigits_toDigits]
  by_cases down : power < 0
  · rw [if_pos down,if_pos rfl]
    omega
  · rw [if_neg down,if_neg (by decide)]
    omega

theorem exponent_spells (digits : AreDigits row) (some : row ≠ []) (place : ℤ) :
    Spells (exponentText row place) (ofDigits row * 10 ^ (place - row.length)) := by
  have powered : ∀ p ∈ Option.some (writtenPower (place - 1)), p.WellFormed := by
    rintro _ ⟨⟩
    exact writtenPower_wellFormed _
  obtain ⟨c,rest,rfl⟩ := List.exists_cons_of_ne_nil some
  obtain ⟨first,others⟩ := List.forall_mem_cons.mp digits
  have front : AreDigits [c] := List.forall_mem_singleton.mpr first
  have exponent : place - 1 - (rest.length : ℤ) = place - (c :: rest).length := by
    rw [List.length_cons]
    omega
  cases rest with
  | nil =>
    have spelt := @spells_decimal [c] none _ front (by simp) nofun powered
    simp only [Option.elim_some,Option.elim_none,Option.getD_none,writtenPower_value,exponent] at spelt
    exact spelt
  | cons d rest =>
    have spelt := @spells_decimal [c] (.some (d :: rest)) _ front (by simp) (by rintro _ ⟨⟩; exact others) powered
    simp only [Option.elim_some,Option.getD_some,writtenPower_value,exponent] at spelt
    exact spelt

-- A layout writes a value that rounds to the double, and the value need not be the double's own.
theorem magnitude_spells (layout : Layout) {x : Float} (finite : x.isFinite = true) :
    ∃ v, Spells (layout.magnitudeText x) v ∧ Rounds v (Binary.ofFloat x).m (Binary.ofFloat x).q := by
  obtain ⟨canonical,-⟩ := canonical_ofFloat finite
  rw [Layout.magnitudeText]
  dsimp only
  split
  · rename_i zero
    have spelt := positional_spells (areDigits_zeros 1) (by decide) layout.pointZero 1
    have value : ((ofDigits (List.replicate 1 '0') : ℕ) : ℚ) * 10 ^ (1 - ((List.replicate 1 '0').length : ℤ)) = 0 := by
      have none : ofDigits (List.replicate 1 '0') = 0 := rfl
      rw [none,Nat.cast_zero,zero_mul]
    have own := canonical.rounds
    rw [zero,Nat.cast_zero,zero_mul] at own
    rw [value] at spelt
    rw [zero]
    exact ⟨0,spelt,own⟩
  · rename_i some
    have rounds := Binary.shortest_rounds (Nat.pos_of_ne_zero some) canonical layout.tie
    generalize (Binary.ofFloat x).shortest layout.tie = shortest at rounds ⊢
    refine ⟨_,?_,rounds⟩
    have digits := areDigits_toDigits shortest.digits
    have front : toDigits shortest.digits ≠ [] := Nat.toDigits_ne_nil
    have last : ((toDigits shortest.digits).length : ℤ) + shortest.exponent - (toDigits shortest.digits).length =
        shortest.exponent := add_sub_cancel_left _ _
    split
    · have spelt := positional_spells digits front layout.pointZero
        ((toDigits shortest.digits).length + shortest.exponent)
      rw [ofDigits_toDigits,last] at spelt
      exact spelt
    · have spelt := exponent_spells digits front ((toDigits shortest.digits).length + shortest.exponent)
      rw [ofDigits_toDigits,last] at spelt
      exact spelt

theorem text_numeral (layout : Layout) {x : Float} (finite : x.isFinite = true) :
    ∃ n : Numeral, n.WellFormed ∧ n.text = layout.text x ∧ n.value = x := by
  obtain ⟨v,spelt,rounds⟩ := magnitude_spells layout finite
  obtain ⟨n,wellFormed,text,significand,exponent,value,rfl⟩ := spelt (signBit x)
  obtain ⟨number,within⟩ := within_of_finite finite
  refine ⟨n,wellFormed,?_,eq_of_unpack_eq ?_⟩
  · rw [Layout.text,number,within]
    exact text
  · rw [value,nearest_build (signBit x) rounds (canonical_ofFloat finite).2,unpack_ofFloat finite]

-- No numeral starts with a blank.
theorem leading?_blank {c : Char} (blank : Text.isBlank c = true) (rest : List Char) :
    Numeral.leading? (c :: rest) = none := by
  have apart {d : Char} (seen : Text.isBlank d = false) : c ≠ d := by
    rintro rfl
    rw [blank] at seen
    cases seen
  have plus : c ≠ '+' := apart rfl
  have minus : c ≠ '-' := apart rfl
  have letter : 'I' ≠ c := (apart rfl).symm
  have digit : isDigit c = false := by
    by_contra given
    simp only [isDigit,Bool.not_eq_false,Bool.and_eq_true,decide_eq_true_eq,Char.le_def,UInt32.le_iff_toNat_le] at given
    have lower : 48 ≤ c.toNat := given.1
    have upper : c.toNat ≤ 57 := given.2
    simp [Text.isBlank,Text.blanks] at blank
    omega
  have fraction : splitFraction [] (c :: rest) = (none,c :: rest) := by
    unfold splitFraction
    split
    · rename_i first
      cases first
      exact absurd rfl (apart rfl : '.' ≠ '.')
    · rfl
  simp [Numeral.leading?,splitSign,isSign,plus,minus,infinityWord,List.isPrefixOf,letter,splitDigits_stops digit,fraction]

theorem trimStart_numeral {n : Numeral} (wellFormed : n.WellFormed) : Text.trimStart n.text = n.text := by
  have found := Numeral.leading?_append wellFormed []
  rw [List.append_nil] at found
  cases text : n.text with
  | nil => rfl
  | cons c rest =>
    refine List.dropWhile_cons_of_neg fun blank => ?_
    rw [text,leading?_blank blank] at found
    cases found

-- All of the text is taken for the numeral that it is.
theorem numeral_read {n : Numeral} (wellFormed : n.WellFormed) :
    n.Longest (Text.trimStart n.text) ∧ leadingNumber n.text = n.value := by
  have found := Numeral.leading?_append wellFormed []
  rw [List.append_nil,Numeral.extend_nil] at found
  rw [leadingNumber,trimStart_numeral wellFormed,found]
  exact ⟨Numeral.leading?_longest found,rfl⟩

end Questionnaire.Decimal
