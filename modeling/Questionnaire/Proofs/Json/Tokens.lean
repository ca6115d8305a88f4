import Questionnaire.Json.Tree
import Questionnaire.Proofs.Json.Quoted
import Questionnaire.Proofs.Json.Spelling
/-!
What pieces of text contribute to the tokens of a document: blanks nothing, and a number the same
wherever it stands, once it is known to read back by itself.
-/

namespace Questionnaire.Json

namespace Token

open Spelling (Ends)

theorem scan_next {c : Char} {rest after : List Char} {token : Token} (solid : isSpace c = false)
    (found : next c rest = (token,some after)) : scan (c :: rest) = token :: scan after := by
  rw [scan,solid]
  split
  · contradiction
  · split <;> simp_all

theorem scan_blanks {blanks : List Char} (blank : ∀ c ∈ blanks, isSpace c = true) (rest : List Char) :
    scan (blanks ++ rest) = scan rest := by
  induction blanks with
  | nil => rfl
  | cons c blanks ih =>
    obtain ⟨space,blank⟩ := List.forall_mem_cons.mp blank
    rw [List.cons_append,scan,if_pos space,ih blank]

theorem scan_quote (s : String) (rest : List Char) :
    scan (quote s ++ rest) = .text (.ok s.toList) :: scan rest := by
  refine scan_next (by decide) ?_
  simp [next,Quoted.skip_flatMap_escape,Quoted.content_flatMap_escape]

theorem next_number {c : Char} (starts : c = '-' ∨ Decimal.isDigit c = true) {rest after : List Char}
    {spelling : Spelling} (read : Spelling.scan (c :: rest) = .ok (spelling,after)) :
    next c rest = (.number spelling,some after) := by
  unfold next
  split
  case h_11 => simp [starts,read]
  all_goals exact absurd starts (by decide)

theorem noNumber_of_isSpace {c : Char} (space : isSpace c = true) :
    ¬ (c = '-' ∨ Decimal.isDigit c = true) ∧ c ≠ '.' ∧ c ≠ 'e' ∧ c ≠ 'E' := by
  simp only [isSpace,Bool.or_eq_true,decide_eq_true_eq] at space
  obtain ((rfl | rfl) | rfl) | rfl := space <;> decide

theorem scan_number {text rest after : List Char} {spelling : Spelling}
    (read : Spelling.scan text = .ok (spelling,after)) (ends : Ends rest) :
    scan (text ++ rest) = .number spelling :: scan (after ++ rest) := by
  cases text with
  | nil => cases read
  | cons c text =>
    have starts := Spelling.scan_head read
    have solid : isSpace c = false := Bool.eq_false_iff.mpr fun space => (noNumber_of_isSpace space).1 starts
    exact scan_next solid (next_number starts (Spelling.scan_before ends read))

theorem number_of_next {c : Char} {text : List Char} {spelling : Spelling} {left : Option (List Char)}
    (found : next c text = (.number spelling,left)) :
    ∃ after, left = some after ∧ Spelling.scan (c :: text) = .ok (spelling,after) := by
  unfold next at found
  split at found
  case h_11 =>
    split at found
    · cases read : Spelling.scan (c :: text) with
      | error _ => simp [read] at found
      | ok pair =>
        simp only [read,Prod.mk.injEq,Token.number.injEq] at found
        obtain ⟨rfl,rfl⟩ := found
        exact ⟨_,rfl,rfl⟩
    · simp at found
  case h_7 | h_8 | h_9 =>
    simp only at found
    split at found <;> simp at found
  case h_10 => split at found <;> simp at found
  all_goals simp at found

theorem blank_of_scan_nil {text : List Char} (empty : scan text = []) : ∀ c ∈ text, isSpace c = true := by
  induction text with
  | nil => simp
  | cons c text ih =>
    rw [scan] at empty
    split at empty
    · rename_i space
      exact List.forall_mem_cons.mpr ⟨space,ih empty⟩
    · split at empty <;> cases empty

-- Blanks may stand around a number that is all of a document.
theorem scan_only_number {text rest : List Char} {spelling : Spelling}
    (alone : scan text = [.number spelling]) (ends : Ends rest) :
    scan (text ++ rest) = .number spelling :: scan rest := by
  induction text with
  | nil => simp [scan] at alone
  | cons c text ih =>
    rw [scan] at alone
    split at alone
    · rename_i space
      rw [List.cons_append,scan,if_pos space,ih alone]
    · split at alone
      · rename_i after found
        obtain ⟨rfl,empty⟩ := List.cons.inj alone
        obtain ⟨_,same,read⟩ := number_of_next found
        cases same
        rw [scan_number read ends,scan_blanks (blank_of_scan_nil empty)]
      · rename_i found
        cases alone
        obtain ⟨_,none,-⟩ := number_of_next found
        cases none

-- What a piece of text contributes to a document, whatever stands behind it.
def Scans (text : List Char) (tokens : List Token) : Prop :=
  ∀ rest, Ends rest → scan (text ++ rest) = tokens ++ scan rest

theorem ends_cons {c : Char} (ends : Decimal.isDigit c = false ∧ c ≠ '.' ∧ c ≠ 'e' ∧ c ≠ 'E') (rest : List Char) :
    Ends (c :: rest) := by
  rintro d mem
  cases mem
  exact ends

theorem ends_blanks {blanks rest : List Char} (blank : ∀ c ∈ blanks, isSpace c = true) (ends : Ends rest) :
    Ends (blanks ++ rest) := by
  cases blanks with
  | nil => exact ends
  | cons c blanks =>
    obtain ⟨apart,others⟩ := noNumber_of_isSpace (blank c List.mem_cons_self)
    exact ends_cons ⟨Bool.eq_false_iff.mpr fun digit => apart (.inr digit),others⟩ _

namespace Scans

variable {text : List Char} {tokens : List Token}

theorem nil : Scans [] [] := fun _ _ => rfl

theorem indented {blanks : List Char} (blank : ∀ c ∈ blanks, isSpace c = true) (scans : Scans text tokens) :
    Scans (blanks ++ text) tokens := by
  intro rest ends
  rw [List.append_assoc,scan_blanks blank,scans rest ends]

-- The items of a list or the members of a map: each has a comma behind it but the last.
theorem separated {α : Type} {one : α → List Char} {token : α → List Token} {all : List α → List Char}
    {allTokens : List α → List Token} (none : all [] = [] ∧ allTokens [] = [])
    (more : ∀ a others, all (a :: others) = one a ++ (if others.isEmpty then [] else [',']) ++ all others ∧
      allTokens (a :: others) = token a ++ (if others.isEmpty then [] else [.comma]) ++ allTokens others)
    {items : List α} (scans : ∀ a ∈ items, Scans (one a) (token a)) : Scans (all items) (allTokens items) := by
  induction items with
  | nil =>
    rw [none.1,none.2]
    exact nil
  | cons a others ih =>
    obtain ⟨first,further⟩ := List.forall_mem_cons.mp scans
    rw [(more a others).1,(more a others).2]
    intro rest ends
    cases others with
    | nil => simpa [none] using first rest ends
    | cons b others =>
      have comma : scan (',' :: (all (b :: others) ++ rest)) = .comma :: scan (all (b :: others) ++ rest) :=
        scan_next (by decide) rfl
      have ending : Ends (',' :: (all (b :: others) ++ rest)) := ends_cons (by decide) _
      simp [first _ ending,comma,ih further rest ends]

theorem key (s : String) {gap : List Char} (blank : ∀ c ∈ gap, isSpace c = true) (value : Scans text tokens) :
    Scans (quote s ++ ':' :: (gap ++ text)) (.text (.ok s.toList) :: .colon :: tokens) := by
  intro rest ends
  have colon : scan (':' :: (gap ++ (text ++ rest))) = .colon :: scan (gap ++ (text ++ rest)) :=
    scan_next (by decide) rfl
  rw [List.append_assoc,scan_quote,List.cons_append,List.append_assoc,colon,scan_blanks blank,value rest ends]
  rfl

theorem enclosed {first last : Char} {opening closing : Token}
    (opens : ∀ rest, scan (first :: rest) = opening :: scan rest)
    (closes : ∀ rest, Ends (last :: rest) ∧ scan (last :: rest) = closing :: scan rest)
    {gap : List Char} (blank : ∀ c ∈ gap, isSpace c = true) (inner : Scans text tokens) :
    Scans (first :: (text ++ gap ++ [last])) (opening :: (tokens ++ [closing])) := by
  intro rest _
  obtain ⟨ends,closed⟩ := closes rest
  have inside : scan (text ++ (gap ++ last :: rest)) = tokens ++ closing :: scan rest := by
    rw [inner _ (ends_blanks blank ends),scan_blanks blank,closed]
  simp [opens,inside]

theorem list {gap : List Char} (blank : ∀ c ∈ gap, isSpace c = true) (items : Scans text tokens) :
    Scans ('[' :: (text ++ gap ++ [']'])) (.openList :: (tokens ++ [.closeList])) :=
  enclosed (fun _ => scan_next (by decide) rfl)
    (fun _ => ⟨ends_cons (by decide) _,scan_next (by decide) rfl⟩) blank items

theorem map {gap : List Char} (blank : ∀ c ∈ gap, isSpace c = true) (members : Scans text tokens) :
    Scans ('\x7b' :: (text ++ gap ++ ['\x7d'])) (.openMap :: (tokens ++ [.closeMap])) :=
  enclosed (fun _ => scan_next (by decide) rfl)
    (fun _ => ⟨ends_cons (by decide) _,scan_next (by decide) rfl⟩) blank members

end Scans

end Token

theorem Tree.number_of_value {tokens : List Token} {value? : Option Number}
    (found : (value tokens).1 = .number value?) :
    ∃ spelling rest,
      tokens = .number spelling :: rest ∧ spelling.value? = value? ∧ (value tokens).2.1 = rest := by
  rw [value.eq_def] at found
  cases tokens with
  | nil => cases found
  | cons token rest =>
    cases token with
    | number spelling =>
      refine ⟨spelling,rest,rfl,Tree.number.inj found,?_⟩
      rw [value.eq_def]
      rfl
    | openList | openMap =>
      cases rest with
      | nil => cases found
      | cons token rest => cases token <;> cases found
    | _ => cases found

-- The document that holds nothing but the number spells that number again. A double is read with
-- two roundings, and these do not hit all of them.
def Number.ReadsBack (n : Number) : Prop := Document.ofText n.text = ⟨.number (some n),true⟩

theorem Number.scan_text {n : Number} (readsBack : n.ReadsBack) :
    ∃ spelling, Token.scan n.text = [.number spelling] ∧ spelling.value? = some n := by
  have root := congrArg Document.root readsBack
  have ended := congrArg Document.ended readsBack
  obtain ⟨spelling,rest,tokens,value,left⟩ := Tree.number_of_value root
  have last : rest = [] := by simpa [Document.ofText,left] using ended
  exact ⟨spelling,last ▸ tokens,value⟩

theorem Number.readsBack_iff {n : Number} {spelling : Spelling}
    (read : Spelling.scan n.text = .ok (spelling,[])) : n.ReadsBack ↔ spelling.value? = some n := by
  have tokens : Token.scan (n.text ++ []) = .number spelling :: Token.scan ([] ++ []) :=
    Token.scan_number read (by simp [Spelling.Ends])
  have text : Document.ofText n.text = ⟨.number spelling.value?,true⟩ := by
    rw [List.append_nil,List.append_nil,Token.scan] at tokens
    show Document.mk (Tree.value (Token.scan n.text)).1 (Tree.value (Token.scan n.text)).2.1.isEmpty = _
    rw [tokens,Tree.value.eq_def]
    rfl
  simp [ReadsBack,text]

theorem Number.some_double_misread : ∃ x : Float, x.isFinite = true ∧ ¬ (Number.double x).ReadsBack := by
  have text : (Number.double 1e-23).text = ['1','e','-','2','3'] := by decide +kernel
  have read : Spelling.scan (Number.double 1e-23).text = .ok (⟨false,['1'],none,some (-23)⟩,[]) := by
    rw [text]
    rfl
  refine ⟨1e-23,by decide +kernel,?_⟩
  rw [readsBack_iff read]
  decide +kernel

end Questionnaire.Json
