import Questionnaire.Proofs.Decimal.ReadBack
import Questionnaire.Proofs.Decimal.Worth
import Questionnaire.Proofs.NumberOrder
import Questionnaire.Proofs.Responses
/-!
Numbers as answers. A number stands in responses as it is written, all of its text is read again, and a rule for numbers
judges it at its own value.
-/

namespace Questionnaire

open Json Json.Value Decimal

namespace Json.Number

variable {n : Number}

-- The numbers of documents: whole ones of at most 64 bits, and finite doubles.
inductive Held : Number → Prop where
  | whole {k : ℤ} (low : -2 ^ 63 ≤ k) (high : k < 2 ^ 64) : Held (.whole k)
  | double {x : Float} (finite : x.isFinite = true) : Held (.double x)

-- The double that a number is, or the one nearest to it.
inductive HasValue : Number → Float → Prop where
  | whole {k : ℤ} {x : Float} (nearest : NearestEven k x) : HasValue (.whole k) x
  | double {x : Float} : HasValue (.double x) x

theorem Held.hasValue (held : n.Held) : n.HasValue n.toFloat := by
  cases held with
  | @whole k low high =>
    have nearest := nearest_whole (k := k.natAbs) (by omega) (k < 0)
    have signed : unit (signOf (k < 0)) * k.natAbs = k := by
      rw [signOf]
      rcases lt_or_ge k 0 with negative | positive
      · rw [if_pos (decide_eq_true negative),unit,Nat.cast_natAbs,abs_of_neg negative]
        push_cast
        ring
      · rw [if_neg (by simpa using positive),unit,Nat.cast_natAbs,abs_of_nonneg positive,one_mul]
    rw [signed] at nearest
    exact .whole nearest
  | double => exact .double

theorem Held.numeral (held : n.Held) :
    ∃ numeral : Numeral, numeral.WellFormed ∧ numeral.text = n.text ∧ numeral.value = n.toFloat := by
  cases held with
  | double finite => exact text_numeral layout finite
  | @whole k =>
    have signed : IsSign (if k < 0 then ['-'] else []) := by
      split
      · exact .inr (.inr rfl)
      · exact .inl rfl
    refine ⟨.decimal (if k < 0 then ['-'] else []) (toDigits k.natAbs) none none,?_,?_,?_⟩
    · exact .decimal signed (areDigits_toDigits k.natAbs) nofun (.inl Nat.toDigits_ne_nil) nofun
    · simp only [Numeral.text,Option.elim_none,List.append_nil]
      rfl
    · simp only [Numeral.value,Option.getD_none,List.append_nil,ofDigits_toDigits,Option.elim_none,List.length_nil]
      rw [toFloat]
      split <;> simp [*]

end Json.Number

variable {members : List (String × Value)} {responses : Responses} {q : Question} {n : Number} {rule : NumberRule}
  {required : Bool}

-- The text that is taken for the number is one numeral to its end, so nothing of the number is dropped.
theorem number_answer_exact (taken : Responses.ofValue (.map members) = .ok responses)
    (given : Holds members q.id (.number n)) (held : n.Held) (ruled : q.validation = some ⟨required,.number rule⟩)
    (known : rule.method ≠ .unrecognized) (wording : Wording) :
    n.HasValue n.toFloat ∧
    (∃ raw, ∃ numeral : Numeral, responses[q.id]? = some raw ∧ numeral.Longest (Text.trimStart raw.toList) ∧
      numeral.text = raw.toList ∧ leadingNumber raw.toList = n.toFloat) ∧
    let verdict := (Entry.ofQuestion wording q).judge responses
    (rule.method.Accepts rule.value n.toFloat → verdict = .ok (.number n.toFloat)) ∧
      (¬ rule.method.Accepts rule.value n.toFloat → verdict = .error rule.errorMessage) := by
  obtain ⟨numeral,wellFormed,written,value⟩ := held.numeral
  obtain ⟨longest,read⟩ := numeral_read wellFormed
  have answered : responses[q.id]? = some (Value.number n).compact :=
    ((Responses.ofValue_eq_ok_iff.mp taken).exact _ _).mpr ⟨_,given,.number n⟩
  have text : (Value.number n).compact.toList = numeral.text := by
    rw [written]
    exact String.toList_ofList
  generalize (Value.number n).compact = raw at answered text
  rw [← text] at longest read
  rw [value] at read
  have seen : ¬ Text.allBlank raw.toList = true := by
    intro blank
    have none : Text.trimStart raw.toList = [] := List.dropWhile_eq_nil_iff.mpr (List.all_eq_true.mp blank)
    have found := Numeral.leading?_eq_some_iff.mpr longest
    rw [none] at found
    cases found
  have decided := number_decided seen known required wording
  rw [read,← ruled,← answered] at decided
  exact ⟨held.hasValue,⟨raw,numeral,answered,longest,text.symm,read⟩,decided⟩

-- An odd number with a bit too many is judged as the even double beside it.
theorem long_balance_rounded :
    let rule : NumberRule := ⟨.equal,9007199254740992.0,"Not settled"⟩
    let q : Question := { id := "balance", text := some "Balance", validation := some ⟨true,.number rule⟩ }
    let n : Json.Number := .whole 9007199254740993
    let members : List (String × Value) := [("note",.null),("balance",.number n)]
    ∃ responses, Responses.ofValue (.map members) = .ok responses ∧ Holds members q.id (.number n) ∧ n.Held ∧
      q.validation = some ⟨true,.number rule⟩ ∧ rule.method ≠ .unrecognized ∧ n.HasValue 9007199254740992.0 ∧
      (Entry.ofQuestion {} q).judge responses = .ok (.number 9007199254740992.0) := by
  intro rule q n members
  have scalars : ∀ id answer, Holds members id answer → Responses.Scalar answer := by
    intro id answer holds
    rcases List.mem_cons.mp (mem_of_holds holds) with first | second
    · cases first
      exact .null
    · cases List.mem_singleton.mp second
      exact .number n
  obtain ⟨responses,reads⟩ := Responses.exists_reads scalars
  have taken := Responses.ofValue_eq_ok_iff.mpr reads
  have given : Holds members q.id (.number n) := ⟨[("note",.null)],[],rfl,nofun⟩
  have held : n.Held := .whole (by decide) (by decide)
  have known : rule.method ≠ .unrecognized := by decide
  have value : n.toFloat = 9007199254740992.0 := by decide +kernel
  have settled : (n.toFloat == rule.value) = true := by decide +kernel
  obtain ⟨hasValue,-,accepted,-⟩ := number_answer_exact taken given held rfl known {}
  rw [value] at hasValue accepted settled
  exact ⟨responses,taken,given,held,rfl,known,hasValue,accepted settled⟩

end Questionnaire
