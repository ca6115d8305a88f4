import Questionnaire.Decimal.Leading
import Questionnaire.Proofs.Decimal.Double
/-!
The number a text starts with. It is the longest numeral there, and a text that starts with none is the only
one that reads as not-a-number.
-/

namespace Questionnaire.Decimal

def IsSign (sign : List Char) : Prop := sign = [] ∨ sign = ['+'] ∨ sign = ['-']

def AreDigits (row : List Char) : Prop := ∀ c ∈ row, isDigit c = true

structure Power.WellFormed (p : Power) : Prop where
  mark : p.mark = 'e' ∨ p.mark = 'E'
  signed : IsSign p.sign
  digits : AreDigits p.digits
  some : p.digits ≠ []

namespace Numeral

-- A point has digits before it or after it.
inductive WellFormed : Numeral → Prop where
  | infinite {sign : List Char} (signed : IsSign sign) : WellFormed (.infinite sign)
  | decimal {sign whole : List Char} {fraction : Option (List Char)} {power : Option Power} (signed : IsSign sign)
      (digits : AreDigits whole) (places : ∀ row ∈ fraction, AreDigits row)
      (some : whole ≠ [] ∨ ∃ row ∈ fraction, row ≠ []) (powered : ∀ p ∈ power, p.WellFormed) :
      WellFormed (.decimal sign whole fraction power)

-- What becomes of a numeral at the head of a text when more follows.
def extend : Numeral → List Char → Numeral
  | .infinite sign,_ => .infinite sign
  | .decimal sign whole fraction (some p),rest =>
    .decimal sign whole fraction (some { p with digits := p.digits ++ (splitDigits rest).1 })
  | .decimal sign whole (some places) none,rest =>
    .decimal sign whole (some (places ++ (splitDigits rest).1)) (splitPower (splitDigits rest).2).1
  | .decimal sign whole none none,rest =>
    let longer := whole ++ (splitDigits rest).1
    let fraction := splitFraction longer (splitDigits rest).2
    .decimal sign longer fraction.1 (splitPower fraction.2).1

end Numeral

theorem isSign_of_isDigit {c : Char} (digit : isDigit c = true) : isSign c = false := by
  by_cases plus : c = '+'
  · rw [plus] at digit
    cases digit
  · by_cases minus : c = '-'
    · rw [minus] at digit
      cases digit
    · simp [isSign,plus,minus]

theorem splitDigits_row {row : List Char} (digits : AreDigits row) (rest : List Char) :
    splitDigits (row ++ rest) = (row ++ (splitDigits rest).1,(splitDigits rest).2) := by
  rw [splitDigits,List.takeWhile_append_of_pos digits,List.dropWhile_append_of_pos digits,splitDigits]

theorem splitDigits_stops {c : Char} (stops : isDigit c = false) (rest : List Char) :
    splitDigits (c :: rest) = ([],c :: rest) := by
  simp [splitDigits,stops]

theorem areDigits_splitDigits (text : List Char) : AreDigits (splitDigits text).1 :=
  List.all_eq_true.mp List.all_takeWhile

theorem splitSign_sign {sign : List Char} (signed : IsSign sign) {c : Char} (unsigned : isSign c = false)
    (rest : List Char) : splitSign (sign ++ c :: rest) = (sign,c :: rest) := by
  rcases signed with rfl | rfl | rfl
  · simp [splitSign,unsigned]
  · rfl
  · rfl

theorem isSign_splitSign (text : List Char) : IsSign (splitSign text).1 := by
  cases text with
  | nil => exact .inl rfl
  | cons c rest =>
    rw [splitSign]
    split
    · rename_i sign
      simp only [isSign,Bool.or_eq_true,decide_eq_true_eq] at sign
      rcases sign with rfl | rfl
      · exact .inr (.inl rfl)
      · exact .inr (.inr rfl)
    · exact .inl rfl

theorem splitPower_text {p : Power} (wellFormed : p.WellFormed) (rest : List Char) :
    splitPower (p.text ++ rest) = (some { p with digits := p.digits ++ (splitDigits rest).1 },(splitDigits rest).2) := by
  obtain ⟨mark,sign,digits⟩ := p
  obtain ⟨marked,signed,row,some⟩ := wellFormed
  cases digits with
  | nil => exact absurd rfl some
  | cons c digits =>
    have first : isSign c = false := isSign_of_isDigit (row c List.mem_cons_self)
    have whole : sign ++ c :: digits ++ rest = sign ++ c :: (digits ++ rest) := by simp
    rw [Power.text,List.cons_append,splitPower]
    dsimp only at *
    rw [whole,splitSign_sign signed first]
    dsimp only
    rw [← List.cons_append,splitDigits_row row]
    rcases marked with rfl | rfl <;> simp

theorem splitDigits_power {p : Power} (wellFormed : p.WellFormed) (rest : List Char) :
    splitDigits (p.text ++ rest) = ([],p.text ++ rest) := by
  refine splitDigits_stops ?_ (p.sign ++ p.digits ++ rest)
  rcases wellFormed.mark with small | big
  · rw [small]
    rfl
  · rw [big]
    rfl

theorem splitFraction_power {p : Power} (wellFormed : p.WellFormed) (whole rest : List Char) :
    splitFraction whole (p.text ++ rest) = (none,p.text ++ rest) := by
  obtain ⟨mark,sign,digits⟩ := p
  rcases wellFormed.mark with small | big
  · cases small
    rfl
  · cases big
    rfl

theorem splitFraction_point {whole row : List Char} (some : whole ≠ [] ∨ row ≠ []) (digits : AreDigits row)
    (rest : List Char) :
    splitFraction whole ('.' :: (row ++ rest)) = (.some (row ++ (splitDigits rest).1),(splitDigits rest).2) := by
  rw [splitFraction,splitDigits_row digits]
  rcases some with before | after
  · simp [before]
  · simp [after]

theorem splitFraction_wellFormed (whole text : List Char) :
    (∀ row ∈ (splitFraction whole text).1, AreDigits row ∧ (whole ≠ [] ∨ row ≠ [])) ∧
      (splitFraction whole text).1.elim [] ('.' :: ·) ++ (splitFraction whole text).2 = text := by
  unfold splitFraction
  split
  · rename_i rest
    dsimp only
    split
    · exact ⟨fun row given => (nomatch given),rfl⟩
    · rename_i counted
      refine ⟨?_,?_⟩
      · rintro row ⟨⟩
        refine ⟨areDigits_splitDigits rest,?_⟩
        simpa [Decidable.imp_iff_not_or] using counted
      · exact congrArg ('.' :: ·) (splitDigits_append rest)
  · exact ⟨fun row given => (nomatch given),rfl⟩

theorem splitPower_wellFormed (text : List Char) :
    (∀ p ∈ (splitPower text).1, p.WellFormed) ∧
      (splitPower text).1.elim [] Power.text ++ (splitPower text).2 = text := by
  cases text with
  | nil => exact ⟨fun p given => (nomatch given),rfl⟩
  | cons c rest =>
    rw [splitPower]
    dsimp only
    split
    · rename_i marked
      simp only [Bool.and_eq_true,Bool.or_eq_true,decide_eq_true_eq] at marked
      refine ⟨?_,?_⟩
      · rintro p ⟨⟩
        exact ⟨marked.1,isSign_splitSign rest,areDigits_splitDigits _,marked.2⟩
      · simp only [Option.elim_some,Power.text,List.cons_append,List.append_assoc]
        rw [splitDigits_append,splitSign_append]
    · exact ⟨fun p given => (nomatch given),rfl⟩

-- What stands behind the sign of a decimal is no sign itself and does not start the word.
def Starts (body : List Char) : Prop := ∃ c rest, body = c :: rest ∧ (isDigit c = true ∨ c = '.')

namespace Numeral

theorem leading?_infinite {sign : List Char} (signed : IsSign sign) (rest : List Char) :
    leading? (sign ++ infinityWord ++ rest) = some (.infinite sign) := by
  have whole : sign ++ infinityWord ++ rest = sign ++ 'I' :: (infinityWord.tail ++ rest) := by simp [infinityWord]
  have word : infinityWord.isPrefixOf ('I' :: (infinityWord.tail ++ rest)) = true :=
    List.isPrefixOf_iff_prefix.mpr ⟨rest,rfl⟩
  rw [whole,leading?,splitSign_sign signed rfl]
  dsimp only
  rw [if_pos word]

theorem leading?_decimal {sign body whole afterWhole afterFraction : List Char} {fraction : Option (List Char)}
    (signed : IsSign sign) (starts : Starts body) (first : splitDigits body = (whole,afterWhole))
    (second : splitFraction whole afterWhole = (fraction,afterFraction)) (some : whole ≠ [] ∨ fraction ≠ none) :
    leading? (sign ++ body) = .some (.decimal sign whole fraction (splitPower afterFraction).1) := by
  obtain ⟨c,rest,rfl,starts⟩ := starts
  have unsigned : isSign c = false := by
    rcases starts with digit | rfl
    · exact isSign_of_isDigit digit
    · rfl
  have other : infinityWord.isPrefixOf (c :: rest) = false := by
    have different : 'I' ≠ c := by
      rintro rfl
      rcases starts with digit | point
      · cases digit
      · cases point
    simp [infinityWord,List.isPrefixOf,different]
  rw [leading?,splitSign_sign signed unsigned]
  simp only [other,first,second]
  rcases some with before | after
  · simp [before]
  · simp [after]

theorem leading?_append {n : Numeral} (wellFormed : n.WellFormed) (rest : List Char) :
    leading? (n.text ++ rest) = some (n.extend rest) := by
  cases wellFormed with
  | infinite signed => exact leading?_infinite signed rest
  | @decimal sign whole fraction power signed digits places some powered =>
    have split : (decimal sign whole fraction power).text ++ rest =
        sign ++ (whole ++ (fraction.elim [] ('.' :: ·) ++ (power.elim [] Power.text ++ rest))) := by
      simp only [text,List.append_assoc]
    have starts : Starts (whole ++ (fraction.elim [] ('.' :: ·) ++ (power.elim [] Power.text ++ rest))) := by
      cases whole with
      | cons c whole => exact ⟨c,_,rfl,.inl (digits c List.mem_cons_self)⟩
      | nil =>
        rcases some with digits | ⟨row,given,_⟩
        · exact absurd rfl digits
        · rw [given]
          exact ⟨'.',_,rfl,.inr rfl⟩
    rw [split]
    have first := splitDigits_row digits (fraction.elim [] ('.' :: ·) ++ (power.elim [] Power.text ++ rest))
    cases fraction with
    | some row =>
      have either : whole ≠ [] ∨ row ≠ [] := by simpa using some
      have second := splitFraction_point either (places row rfl) (power.elim [] Power.text ++ rest)
      have stops : splitDigits ('.' :: (row ++ (power.elim [] Power.text ++ rest))) = ([],_) := splitDigits_stops rfl _
      simp only [Option.elim_some,List.cons_append,stops,List.append_nil] at first starts ⊢
      rw [leading?_decimal signed starts first second (.inr (Option.some_ne_none _))]
      cases power with
      | none => rfl
      | some p =>
        have powerful := powered p rfl
        rw [Option.elim_some,splitDigits_power powerful,List.append_nil,splitPower_text powerful]
        rfl
    | none =>
      have front : whole ≠ [] := by simpa using some
      cases power with
      | none =>
        simp only [Option.elim_none,List.nil_append] at first starts ⊢
        exact leading?_decimal signed starts first rfl (.inl (by simp [front]))
      | some p =>
        have powerful := powered p rfl
        simp only [Option.elim_none,Option.elim_some,List.nil_append,splitDigits_power powerful,List.append_nil]
          at first starts ⊢
        rw [leading?_decimal signed starts first (splitFraction_power powerful whole rest) (.inl front)]
        rw [splitPower_text powerful]
        rfl

theorem extend_nil (n : Numeral) : n.extend [] = n := by
  cases n with
  | infinite sign => rfl
  | decimal sign whole fraction power =>
    cases power with
    | some p => simp [extend,splitDigits]
    | none =>
      cases fraction with
      | some row => simp [extend,splitDigits,splitPower]
      | none => simp [extend,splitDigits,splitFraction,splitPower]

theorem text_prefix_extend (n : Numeral) (rest : List Char) : n.text <+: (n.extend rest).text := by
  cases n with
  | infinite sign => exact List.prefix_refl _
  | decimal sign whole fraction power =>
    cases power with
    | some p =>
      refine ⟨(splitDigits rest).1,?_⟩
      simp [extend,text,Power.text]
    | none =>
      cases fraction with
      | some row => simp [extend,text]
      | none => simp [extend,text]

theorem leading?_wellFormed {t : List Char} {n : Numeral} (found : leading? t = some n) :
    n.WellFormed ∧ n.text <+: t := by
  have front := splitSign_append t
  have signed := isSign_splitSign t
  rw [leading?] at found
  generalize splitSign t = first at found front signed
  obtain ⟨sign,unsigned⟩ := first
  dsimp only at found front signed
  split at found
  · rename_i word
    cases found
    obtain ⟨rest,follows⟩ := List.isPrefixOf_iff_prefix.mp word
    refine ⟨.infinite signed,rest,?_⟩
    rw [text,List.append_assoc,follows,front]
  · have whole := splitDigits_append unsigned
    have digits := areDigits_splitDigits unsigned
    generalize splitDigits unsigned = second at found whole digits
    obtain ⟨row,afterWhole⟩ := second
    dsimp only at found whole digits
    obtain ⟨places,point⟩ := splitFraction_wellFormed row afterWhole
    generalize splitFraction row afterWhole = third at found places point
    obtain ⟨fraction,afterFraction⟩ := third
    dsimp only at found places point
    obtain ⟨powered,follows⟩ := splitPower_wellFormed afterFraction
    split at found
    · cases found
    · rename_i counted
      cases found
      have some : row ≠ [] ∨ ∃ places ∈ fraction, places ≠ [] := by
        cases fraction with
        | none => exact .inl (by simpa using counted)
        | some row => exact (places row rfl).2.imp_right fun digits => ⟨row,rfl,digits⟩
      refine ⟨.decimal signed digits (fun row given => (places row given).1) some powered,(splitPower afterFraction).2,?_⟩
      rw [text,List.append_assoc,follows,List.append_assoc,point,List.append_assoc,whole,front]

-- A numeral at the head of a text that no longer one is there to continue.
structure Longest (n : Numeral) (t : List Char) : Prop where
  wellFormed : n.WellFormed
  leads : n.text <+: t
  longest : ∀ m : Numeral, m.WellFormed → m.text <+: t → m.text.length ≤ n.text.length

theorem leading?_longest {t : List Char} {n : Numeral} (found : leading? t = some n) : n.Longest t := by
  obtain ⟨wellFormed,leads⟩ := leading?_wellFormed found
  refine ⟨wellFormed,leads,?_⟩
  rintro m other ⟨rest,rfl⟩
  have same := (leading?_append other rest).symm.trans found
  cases same
  exact (text_prefix_extend m rest).length_le

-- A text is written by one numeral only.
theorem text_injective {n m : Numeral} (one : n.WellFormed) (two : m.WellFormed) (same : n.text = m.text) : n = m := by
  have first := leading?_append one []
  have second := leading?_append two []
  rw [extend_nil] at first second
  rw [same] at first
  exact Option.some.inj (first.symm.trans second)

theorem leading?_eq_some_iff {t : List Char} {n : Numeral} : leading? t = some n ↔ n.Longest t := by
  constructor
  · exact leading?_longest
  · intro longest
    obtain ⟨rest,split⟩ := longest.leads
    have found := leading?_append longest.wellFormed rest
    rw [split] at found
    have other := leading?_longest found
    have length := Nat.le_antisymm (longest.longest _ other.wellFormed other.leads)
      (other.longest n longest.wellFormed longest.leads)
    have front := List.prefix_of_prefix_length_le other.leads longest.leads (by omega)
    have text : (n.extend rest).text = n.text := front.eq_of_length length
    rw [found,text_injective other.wellFormed longest.wellFormed text]

theorem leading?_eq_none_iff {t : List Char} : leading? t = none ↔ ∀ n : Numeral, n.WellFormed → ¬ n.text <+: t := by
  constructor
  · rintro none n wellFormed ⟨rest,rfl⟩
    rw [leading?_append wellFormed rest] at none
    cases none
  · intro absent
    cases found : leading? t with
    | none => rfl
    | some n =>
      obtain ⟨wellFormed,leads⟩ := leading?_wellFormed found
      exact absurd leads (absent n wellFormed)

theorem value_number (n : Numeral) : n.value.isNaN = false := by
  cases n with
  | infinite sign =>
    rw [value]
    exact signed_number (by decide +kernel) _
  | decimal sign whole fraction power => exact nearest_number _ _ _

theorem sign_ascii {row : List Char} (signed : IsSign row) : ∀ c ∈ row, c.toNat < 128 := by
  rcases signed with rfl | rfl | rfl
  · exact List.forall_mem_nil _
  · exact List.forall_mem_singleton.mpr (by decide)
  · exact List.forall_mem_singleton.mpr (by decide)

theorem text_ascii {n : Numeral} (wellFormed : n.WellFormed) : ∀ c ∈ n.text, c.toNat < 128 := by
  have digits : ∀ {row}, AreDigits row → ∀ c ∈ row, c.toNat < 128 := by
    intro row digits c member
    have digit := digits c member
    simp only [isDigit,Bool.and_eq_true,decide_eq_true_eq,Char.le_def,UInt32.le_iff_toNat_le] at digit
    have upper : c.toNat ≤ 57 := digit.2
    omega
  cases wellFormed with
  | infinite signed =>
    have word : infinityWord.all (fun c => c.toNat < 128) = true := by decide
    exact List.forall_mem_append.mpr ⟨sign_ascii signed,by simpa using word⟩
  | @decimal _ whole fraction power signed row places _ powered =>
    have front := List.forall_mem_append.mpr ⟨sign_ascii signed,digits row⟩
    refine List.forall_mem_append.mpr ⟨List.forall_mem_append.mpr ⟨front,?_⟩,?_⟩
    · cases fraction with
      | none => exact List.forall_mem_nil _
      | some row => exact List.forall_mem_cons.mpr ⟨by decide,digits (places row rfl)⟩
    · cases power with
      | none => exact List.forall_mem_nil _
      | some p =>
        have powerful := powered p rfl
        refine List.forall_mem_cons.mpr ⟨?_,List.forall_mem_append.mpr ⟨sign_ascii powerful.signed,digits powerful.digits⟩⟩
        rcases powerful.mark with small | big
        · rw [small]
          decide
        · rw [big]
          decide

end Numeral

theorem utf8ByteSize_ascii {row : List Char} (ascii : ∀ c ∈ row, c.toNat < 128) :
    (String.ofList row).utf8ByteSize = row.length := by
  induction row with
  | nil => rfl
  | cons c row ih =>
    have small : c.val ≤ 127 := by
      have code := ascii c List.mem_cons_self
      rw [UInt32.le_iff_toNat_le]
      exact Nat.le_of_lt_succ code
    have split : String.ofList (c :: row) = String.singleton c ++ String.ofList row := by
      rw [String.singleton_eq_ofList,← String.ofList_append]
      rfl
    rw [split,String.utf8ByteSize_append,String.utf8ByteSize_singleton,Char.utf8Size_eq_one_iff.mpr small]
    rw [ih fun other member => ascii other (List.mem_cons_of_mem c member),List.length_cons]
    omega

-- Counted in bytes, the place is the end of the text or the start of one of its characters.
def IsCut (t : List Char) (k : Nat) : Prop := (⟨k⟩ : String.Pos.Raw).IsValid (String.ofList t)

theorem isCut_of_ascii {front t : List Char} (leads : front <+: t) (ascii : ∀ c ∈ front, c.toNat < 128) {k : Nat}
    (within : k ≤ front.length) : IsCut t k := by
  obtain ⟨rest,rfl⟩ := leads
  rw [IsCut,String.Pos.Raw.isValid_ofList]
  refine ⟨k,?_⟩
  rw [List.take_append_of_le_length within,utf8ByteSize_ascii fun c taken => ascii c (List.mem_of_mem_take taken)]
  exact (List.length_take_of_le within).symm

open Numeral

-- The number is that of the longest numeral behind the blanks. All the reader takes off is cut between characters:
-- a sign, whatever follows it, and from the numeral every front part.
theorem leadingNumber_exact (raw : String) :
    (∀ n : Numeral, n.Longest (Text.trimStart raw.toList) →
      leadingNumber raw.toList = n.value ∧ ∀ k, k ≤ n.text.length → IsCut (Text.trimStart raw.toList) k) ∧
    ((∃ n : Numeral, n.WellFormed ∧ n.text <+: Text.trimStart raw.toList) →
      ∃ n : Numeral, n.Longest (Text.trimStart raw.toList)) ∧
    ((leadingNumber raw.toList).isNaN = true ↔
      ∀ n : Numeral, n.WellFormed → ¬ n.text <+: Text.trimStart raw.toList) ∧
    ∀ k, k ≤ (splitSign (Text.trimStart raw.toList)).1.length → IsCut (Text.trimStart raw.toList) k := by
  rw [leadingNumber]
  generalize Text.trimStart raw.toList = t
  refine ⟨?_,?_,?_,?_⟩
  · intro n longest
    refine ⟨?_,fun k within => isCut_of_ascii longest.leads (text_ascii longest.wellFormed) within⟩
    rw [leading?_eq_some_iff.mpr longest]
    rfl
  · rintro ⟨n,wellFormed,leads⟩
    cases found : leading? t with
    | some n => exact ⟨n,leading?_longest found⟩
    | none => exact absurd leads (leading?_eq_none_iff.mp found n wellFormed)
  · rw [← leading?_eq_none_iff]
    cases leading? t with
    | none =>
      refine iff_of_true ?_ rfl
      show notANumber.isNaN = true
      decide +kernel
    | some n =>
      refine iff_of_false ?_ (Option.some_ne_none n)
      show ¬ n.value.isNaN = true
      rw [value_number]
      exact Bool.false_ne_true
  · intro k within
    have leads : (splitSign t).1 <+: t := ⟨_,splitSign_append t⟩
    exact isCut_of_ascii leads (sign_ascii (isSign_splitSign t)) within

-- The power has no digits and is given back, and what follows takes three bytes.
theorem price_read_to_the_power :
    let price := "\u2003-12.5e+€"
    let n : Numeral := .decimal ['-'] ['1','2'] (some ['5']) none
    n.Longest (Text.trimStart price.toList) ∧
      (leadingNumber price.toList = n.value ∧ ∀ k, k ≤ n.text.length → IsCut (Text.trimStart price.toList) k) ∧
      n.value = -12.5 := by
  intro price n
  have found : leading? (Text.trimStart price.toList) = some n := by decide
  have longest := leading?_longest found
  exact ⟨longest,(leadingNumber_exact price).1 n longest,by decide +kernel⟩

end Questionnaire.Decimal
