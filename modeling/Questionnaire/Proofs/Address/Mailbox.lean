import Mathlib.Computability.Language
import Questionnaire.Validator
/-!
What counts as an e-mail address. The reader cuts a text at its separators; it finds exactly the texts of
the pattern that neither start with a dot nor have two dots in a row. Letters are compared without regard to
case, so the pattern takes two letters outside ASCII as well, and with them addresses that its documented
alphabet does not have.
-/

namespace Questionnaire

theorem Text.split_eq_splitOn (separator : Char) (text : List Char) : split separator text = text.splitOn separator := by
  induction text with
  | nil => rfl
  | cons c rest ih =>
    rw [List.splitOn_cons_eq_if_modifyHead,← ih]
    cases found : split separator rest with
    | nil => exact absurd found (split_ne_nil _ _)
    | cons piece more =>
      by_cases same : c = separator
      · simp only [split,List.foldr_cons] at found ⊢
        simp [same,found]
      · rw [split_cons_of_ne same found]
        simp [same]

theorem Text.separator_notMem_split {separator : Char} {text piece : List Char} (cut : piece ∈ split separator text) :
    separator ∉ piece := by
  rw [split_eq_splitOn] at cut
  induction text generalizing piece with
  | nil =>
    rw [List.splitOn_nil,List.mem_singleton] at cut
    rw [cut]
    exact List.not_mem_nil
  | cons c rest ih =>
    rw [List.splitOn_cons_eq_if_modifyHead] at cut
    obtain ⟨first,more,found⟩ := List.exists_cons_of_ne_nil (List.splitOn_ne_nil separator rest)
    rw [found] at ih cut
    obtain ⟨first,others⟩ := List.forall_mem_cons.mp fun piece => @ih piece
    split at cut
    · rcases List.mem_cons.mp cut with rfl | cut
      · exact List.not_mem_nil
      · exact ih cut
    · rename_i other
      rcases List.mem_cons.mp cut with rfl | cut
      · rw [List.mem_cons,not_or]
        exact ⟨fun same => other (beq_iff_eq.mpr same.symm),first⟩
      · exact others piece cut

theorem Text.split_eq_iff {separator : Char} {text : List Char} {pieces : List (List Char)} :
    split separator text = pieces ↔
      pieces ≠ [] ∧ [separator].intercalate pieces = text ∧ ∀ piece ∈ pieces, separator ∉ piece := by
  constructor
  · rintro rfl
    refine ⟨split_ne_nil _ _,?_,fun _ => separator_notMem_split⟩
    rw [split_eq_splitOn,List.intercalate_splitOn]
  · rintro ⟨some,rfl,apart⟩
    rw [split_eq_splitOn,List.splitOn_intercalate separator apart some]

namespace Mailbox

def AsciiLetter (c : Char) : Prop := ('a' ≤ c ∧ c ≤ 'z') ∨ ('A' ≤ c ∧ c ≤ 'Z')

-- Letters that become one of ASCII when case is folded: the long s and the Kelvin sign do.
def CaselessLetter (c : Char) : Prop := AsciiLetter c ∨ c = '\u017f' ∨ c = '\u212a'

instance : DecidablePred AsciiLetter := fun _ => inferInstanceAs (Decidable (_ ∨ _))

instance : DecidablePred CaselessLetter := fun _ => inferInstanceAs (Decidable (_ ∨ _))

section Grammar

variable (letter : Char → Prop)

def Alphanumeric (c : Char) : Prop := letter c ∨ isDigit c = true

-- What a local part may end with, and what else may stand in it.
def Closing (c : Char) : Prop := Alphanumeric letter c ∨ c = '_' ∨ c = '+' ∨ c = '-'

def Inside (c : Char) : Prop := Closing letter c ∨ c = '\x27' ∨ c = '.'

structure LocalPart (part : List Char) : Prop where
  characters : ∀ c ∈ part, Inside letter c
  last : ∃ c ∈ part.getLast?, Closing letter c

structure Label (part : List Char) : Prop where
  first : ∃ c ∈ part.head?, Alphanumeric letter c
  characters : ∀ c ∈ part, Alphanumeric letter c ∨ c = '-'

structure TopLabel (part : List Char) : Prop where
  characters : ∀ c ∈ part, letter c
  long : 2 ≤ part.length

-- Local part, labels and last label put together, wherever dots stand in the first.
def Shaped (text : List Char) : Prop :=
  ∃ name labels top, text = name ++ '@' :: (labels.flatMap (· ++ ['.']) ++ top) ∧ LocalPart letter name ∧
    (labels ≠ [] ∧ ∀ label ∈ labels, Label letter label) ∧ TopLabel letter top

-- A text of the documented grammar, over an alphabet.
def Address (text : List Char) : Prop :=
  ∃ name labels top, text = name ++ '@' :: (labels.flatMap (· ++ ['.']) ++ top) ∧
    (LocalPart letter name ∧ name.head? ≠ some '.') ∧ (labels ≠ [] ∧ ∀ label ∈ labels, Label letter label) ∧
    TopLabel letter top ∧ ¬ ['.','.'] <:+: text

end Grammar

section Decide

variable {letter : Char → Prop} [DecidablePred letter]

instance : DecidablePred (Alphanumeric letter) := fun _ => inferInstanceAs (Decidable (_ ∨ _))

instance : DecidablePred (Closing letter) := fun _ => inferInstanceAs (Decidable (_ ∨ _))

instance : DecidablePred (Inside letter) := fun _ => inferInstanceAs (Decidable (_ ∨ _))

end Decide

variable {letter : Char → Prop} {text part : List Char}

theorem isLetter_iff {c : Char} : isLetter c = true ↔ CaselessLetter c := by
  simp [isLetter,CaselessLetter,AsciiLetter,or_assoc]

theorem isLocalEnd_iff {c : Char} : isLocalEnd c = true ↔ Closing CaselessLetter c := by
  simp [isLocalEnd,Closing,Alphanumeric,isLetter_iff,or_assoc]

theorem localPart_iff : localPart part = true ↔ LocalPart CaselessLetter part := by
  have last : part.getLast?.elim false isLocalEnd = true ↔ ∃ c ∈ part.getLast?, Closing CaselessLetter c := by
    cases part.getLast? <;> simp [isLocalEnd_iff]
  have characters : part.all isLocal = true ↔ ∀ c ∈ part, Inside CaselessLetter c := by
    simp [isLocal,Inside,isLocalEnd_iff,or_assoc]
  rw [localPart,Bool.and_eq_true,last,characters]
  exact ⟨fun ⟨all,ends⟩ => ⟨all,ends⟩,fun part => ⟨part.characters,part.last⟩⟩

theorem label_iff : label part = true ↔ Label CaselessLetter part := by
  have first : (part.head?.elim false fun c => isLetter c || isDigit c) = true ↔
      ∃ c ∈ part.head?, Alphanumeric CaselessLetter c := by
    cases part.head? <;> simp [Alphanumeric,isLetter_iff]
  have characters : (part.all fun c => isLetter c || isDigit c || c = '-') = true ↔
      ∀ c ∈ part, Alphanumeric CaselessLetter c ∨ c = '-' := by
    simp [Alphanumeric,isLetter_iff]
  rw [label,Bool.and_eq_true,first,characters]
  exact ⟨fun ⟨starts,all⟩ => ⟨starts,all⟩,fun part => ⟨part.first,part.characters⟩⟩

theorem topLabel_iff : topLabel part = true ↔ TopLabel CaselessLetter part := by
  have characters : part.all isLetter = true ↔ ∀ c ∈ part, CaselessLetter c := by
    simp [isLetter_iff]
  rw [topLabel,Bool.and_eq_true,decide_eq_true_iff,characters]
  exact ⟨fun ⟨all,long⟩ => ⟨all,long⟩,fun part => ⟨part.characters,part.long⟩⟩

theorem intercalate_last (labels : List (List Char)) (top : List Char) :
    ['.'].intercalate (labels ++ [top]) = labels.flatMap (· ++ ['.']) ++ top := by
  induction labels with
  | nil => exact List.intercalate_singleton
  | cons label rest ih =>
    have nonempty : rest ++ [top] ≠ [] := List.append_ne_nil_of_right_ne_nil rest (List.cons_ne_nil top [])
    obtain ⟨next,more,found⟩ := List.exists_cons_of_ne_nil nonempty
    rw [List.cons_append,found,List.intercalate_cons_cons,← found,ih,List.flatMap_cons]
    simp

theorem dot_notMem_label (label : Label CaselessLetter part) : '.' ∉ part := fun dot =>
  absurd (label.characters '.' dot) (by decide)

theorem dot_notMem_topLabel (top : TopLabel CaselessLetter part) : '.' ∉ part := fun dot =>
  absurd (top.characters '.' dot) (by decide)

theorem domain_iff : domain part = true ↔ ∃ labels top, (labels ≠ [] ∧ ∀ label ∈ labels, Label CaselessLetter label) ∧
    TopLabel CaselessLetter top ∧ part = labels.flatMap (· ++ ['.']) ++ top := by
  constructor
  · intro accepted
    unfold domain at accepted
    split at accepted
    · rename_i top labels cut
      simp only [Bool.and_eq_true,topLabel_iff,List.all_eq_true,label_iff,decide_eq_true_iff] at accepted
      obtain ⟨⟨last,some⟩,each⟩ := accepted
      have pieces : Text.split '.' part = labels.reverse ++ [top] := by
        rw [← List.reverse_cons,← cut,List.reverse_reverse]
      obtain ⟨_,joined,_⟩ := Text.split_eq_iff.mp pieces
      refine ⟨labels.reverse,top,⟨mt List.reverse_eq_nil_iff.mp some,?_⟩,last,?_⟩
      · exact fun label member => each label (List.mem_reverse.mp member)
      · rw [← joined,intercalate_last]
    · cases accepted
  · rintro ⟨labels,top,⟨some,each⟩,last,rfl⟩
    have pieces : Text.split '.' (labels.flatMap (· ++ ['.']) ++ top) = labels ++ [top] := by
      refine Text.split_eq_iff.mpr ⟨by simp,intercalate_last labels top,?_⟩
      refine List.forall_mem_append.mpr ⟨fun label member => dot_notMem_label (each label member),?_⟩
      exact List.forall_mem_singleton.mpr (dot_notMem_topLabel last)
    rw [domain,pieces,List.reverse_append,List.reverse_singleton,List.singleton_append]
    simp only [Bool.and_eq_true,topLabel_iff,List.all_eq_true,label_iff,decide_eq_true_iff]
    exact ⟨⟨last,mt List.reverse_eq_nil_iff.mp some⟩,fun label member => each label (List.mem_reverse.mp member)⟩

theorem at_notMem_host {labels : List (List Char)} {top : List Char}
    (each : ∀ label ∈ labels, Label CaselessLetter label) (last : TopLabel CaselessLetter top) :
    '@' ∉ labels.flatMap (· ++ ['.']) ++ top := by
  rw [List.mem_append,not_or]
  refine ⟨?_,fun sign => absurd (last.characters '@' sign) (by decide)⟩
  intro sign
  obtain ⟨label,member,sign⟩ := List.mem_flatMap.mp sign
  rcases List.mem_append.mp sign with sign | sign
  · exact absurd ((each label member).characters '@' sign) (by decide)
  · exact absurd sign (by decide)

-- A local part is never empty, so it starts with a dot exactly when the text does.
theorem LocalPart.dot_prefix_iff {name : List Char} (named : LocalPart letter name) (rest : List Char) :
    ['.'] <+: name ++ rest ↔ name.head? = some '.' := by
  obtain ⟨c,last,_⟩ := named.last
  obtain ⟨first,more,rfl⟩ := List.exists_cons_of_ne_nil (List.ne_nil_of_mem (List.mem_of_getLast? last))
  simp [eq_comm]

theorem address_iff : Address letter text ↔ (¬ ['.'] <+: text ∧ ¬ ['.','.'] <:+: text) ∧ Shaped letter text := by
  constructor
  · rintro ⟨name,labels,top,rfl,⟨named,first⟩,given,last,apart⟩
    exact ⟨⟨mt (named.dot_prefix_iff _).mp first,apart⟩,name,labels,top,rfl,named,given,last⟩
  · rintro ⟨⟨undotted,apart⟩,name,labels,top,rfl,named,given,last⟩
    exact ⟨name,labels,top,rfl,⟨named,mt (named.dot_prefix_iff _).mpr undotted⟩,given,last,apart⟩

theorem split_at_iff {name host : List Char} :
    Text.split '@' text = [name,host] ↔ name ++ '@' :: host = text ∧ '@' ∉ name ∧ '@' ∉ host := by
  rw [Text.split_eq_iff,List.intercalate_cons_cons,List.intercalate_singleton]
  simp

theorem isValid_iff : isValid text = true ↔ Address CaselessLetter text := by
  simp only [isValid,Bool.and_eq_true,Bool.not_eq_true',← Bool.not_eq_true,List.isPrefixOf_iff_prefix,Text.occurs_iff]
  rw [address_iff]
  refine and_congr_right fun _ => ?_
  constructor
  · intro accepted
    split at accepted
    · rename_i name host pieces
      rw [Bool.and_eq_true,localPart_iff,domain_iff] at accepted
      obtain ⟨named,labels,top,given,last,rfl⟩ := accepted
      exact ⟨name,labels,top,(split_at_iff.mp pieces).1.symm,named,given,last⟩
    · cases accepted
  · rintro ⟨name,labels,top,rfl,named,given,last⟩
    have unsigned : '@' ∉ name := fun sign => absurd (named.characters '@' sign) (by decide)
    rw [split_at_iff.mpr ⟨rfl,unsigned,at_notMem_host given.2 last⟩]
    simp only [Bool.and_eq_true,localPart_iff,domain_iff]
    exact ⟨named,labels,top,given,last,rfl⟩

section Pattern

open Computability

def oneOf (characters : Char → Prop) : Language Char := {text | ∃ c, characters c ∧ text = [c]}

variable (letter)

def localPattern : Language Char := (oneOf (Inside letter))∗ * oneOf (Closing letter)

def labelPattern : Language Char :=
  oneOf (Alphanumeric letter) * (oneOf fun c => Alphanumeric letter c ∨ c = '-')∗ * oneOf (· = '.')

def topPattern : Language Char := oneOf letter * oneOf letter * (oneOf letter)∗

-- The pattern as it is written. Unlike the reader it says nothing of where to cut a text, and a last label
-- can pass for one of the others.
def pattern : Language Char :=
  localPattern letter * oneOf (· = '@') * (labelPattern letter * (labelPattern letter)∗) * topPattern letter

variable {letter}

theorem mem_oneOf_star {characters : Char → Prop} : text ∈ (oneOf characters)∗ ↔ ∀ c ∈ text, characters c := by
  rw [Language.mem_kstar]
  constructor
  · rintro ⟨pieces,rfl,each⟩ c member
    obtain ⟨piece,held,member⟩ := List.mem_flatten.mp member
    obtain ⟨d,holds,rfl⟩ := each piece held
    rwa [List.mem_singleton.mp member]
  · intro all
    refine ⟨text.map ([·]),?_,?_⟩
    · rw [← List.flatMap_def,List.flatMap_singleton']
    · intro piece member
      obtain ⟨c,held,rfl⟩ := List.mem_map.mp member
      exact ⟨c,all c held,rfl⟩

theorem mem_localPattern : part ∈ localPattern letter ↔ LocalPart letter part := by
  constructor
  · rintro ⟨front,inside,_,⟨c,closing,rfl⟩,rfl⟩
    refine ⟨?_,c,List.getLast?_concat,closing⟩
    exact List.forall_mem_append.mpr ⟨mem_oneOf_star.mp inside,List.forall_mem_singleton.mpr (.inl closing)⟩
  · rintro ⟨characters,c,last,closing⟩
    obtain ⟨front,rfl⟩ := List.getLast?_eq_some_iff.mp last
    exact ⟨front,mem_oneOf_star.mpr (List.forall_mem_append.mp characters).1,[c],⟨c,closing,rfl⟩,rfl⟩

theorem mem_labelPattern : part ∈ labelPattern letter ↔ ∃ label, Label letter label ∧ label ++ ['.'] = part := by
  constructor
  · rintro ⟨_,⟨_,⟨c,first,rfl⟩,rest,others,rfl⟩,_,⟨_,rfl,rfl⟩,rfl⟩
    refine ⟨c :: rest,⟨⟨c,rfl,first⟩,?_⟩,rfl⟩
    exact List.forall_mem_cons.mpr ⟨.inl first,mem_oneOf_star.mp others⟩
  · rintro ⟨label,⟨⟨c,head,first⟩,characters⟩,rfl⟩
    obtain ⟨rest,rfl⟩ := List.head?_eq_some_iff.mp head
    have others := mem_oneOf_star.mpr (List.forall_mem_cons.mp characters).2
    exact ⟨c :: rest,⟨[c],⟨c,first,rfl⟩,rest,others,rfl⟩,['.'],⟨'.',rfl,rfl⟩,rfl⟩

theorem mem_topPattern : part ∈ topPattern letter ↔ TopLabel letter part := by
  constructor
  · rintro ⟨_,⟨_,⟨a,one,rfl⟩,_,⟨b,two,rfl⟩,rfl⟩,rest,others,rfl⟩
    refine ⟨List.forall_mem_cons.mpr ⟨one,List.forall_mem_cons.mpr ⟨two,mem_oneOf_star.mp others⟩⟩,?_⟩
    exact Nat.le_add_left 2 rest.length
  · rintro ⟨characters,long⟩
    match part,long with
    | a :: b :: rest,_ =>
      obtain ⟨one,characters⟩ := List.forall_mem_cons.mp characters
      obtain ⟨two,others⟩ := List.forall_mem_cons.mp characters
      exact ⟨[a,b],⟨[a],⟨a,one,rfl⟩,[b],⟨b,two,rfl⟩,rfl⟩,rest,mem_oneOf_star.mpr others,rfl⟩

theorem mem_labels_star : part ∈ (labelPattern letter)∗ ↔
    ∃ labels : List (List Char), (∀ label ∈ labels, Label letter label) ∧ labels.flatMap (· ++ ['.']) = part := by
  rw [Language.mem_kstar]
  constructor
  · rintro ⟨pieces,rfl,each⟩
    induction pieces with
    | nil => exact ⟨[],List.forall_mem_nil _,rfl⟩
    | cons piece rest ih =>
      obtain ⟨first,others⟩ := List.forall_mem_cons.mp each
      obtain ⟨label,allowed,rfl⟩ := mem_labelPattern.mp first
      obtain ⟨labels,each,joined⟩ := ih others
      refine ⟨label :: labels,List.forall_mem_cons.mpr ⟨allowed,each⟩,?_⟩
      rw [List.flatMap_cons,joined,List.flatten_cons]
  · rintro ⟨labels,each,rfl⟩
    refine ⟨labels.map (· ++ ['.']),List.flatMap_def,?_⟩
    intro piece member
    obtain ⟨label,held,rfl⟩ := List.mem_map.mp member
    exact mem_labelPattern.mpr ⟨label,each label held,rfl⟩

theorem mem_labels : part ∈ labelPattern letter * (labelPattern letter)∗ ↔
    ∃ labels : List (List Char), (labels ≠ [] ∧ ∀ label ∈ labels, Label letter label) ∧
      labels.flatMap (· ++ ['.']) = part := by
  constructor
  · rintro ⟨_,first,_,others,rfl⟩
    obtain ⟨label,allowed,rfl⟩ := mem_labelPattern.mp first
    obtain ⟨labels,each,rfl⟩ := mem_labels_star.mp others
    exact ⟨label :: labels,⟨List.cons_ne_nil _ _,List.forall_mem_cons.mpr ⟨allowed,each⟩⟩,List.flatMap_cons⟩
  · rintro ⟨labels,⟨some,each⟩,rfl⟩
    obtain ⟨label,rest,rfl⟩ := List.exists_cons_of_ne_nil some
    obtain ⟨allowed,each⟩ := List.forall_mem_cons.mp each
    exact ⟨_,mem_labelPattern.mpr ⟨label,allowed,rfl⟩,_,mem_labels_star.mpr ⟨rest,each,rfl⟩,rfl⟩

theorem mem_pattern : text ∈ pattern letter ↔ Shaped letter text := by
  constructor
  · rintro ⟨_,⟨_,⟨name,named,_,⟨_,rfl,rfl⟩,rfl⟩,_,hosts,rfl⟩,top,last,rfl⟩
    obtain ⟨labels,given,rfl⟩ := mem_labels.mp hosts
    refine ⟨name,labels,top,?_,mem_localPattern.mp named,given,mem_topPattern.mp last⟩
    simp
  · rintro ⟨name,labels,top,rfl,named,given,last⟩
    have hosts := mem_labels.mpr ⟨labels,given,rfl⟩
    refine ⟨_,⟨_,⟨name,mem_localPattern.mpr named,['@'],⟨'@',rfl,rfl⟩,rfl⟩,_,hosts,rfl⟩,top,mem_topPattern.mpr last,?_⟩
    simp

end Pattern

theorem Inside.imp {other : Char → Prop} {c : Char} (wider : letter c → other c) : Inside letter c → Inside other c :=
  Or.imp_left (Or.imp_left (Or.imp_left wider))

theorem Shaped.characters (shaped : Shaped letter text) {c : Char} (member : c ∈ text) : Inside letter c ∨ c = '@' := by
  obtain ⟨name,labels,top,rfl,named,⟨_,each⟩,last⟩ := shaped
  simp only [List.mem_append,List.mem_cons,List.mem_flatMap,List.not_mem_nil,or_false] at member
  rcases member with member | rfl | ⟨label,held,member | rfl⟩ | member
  · exact .inl (named.characters c member)
  · exact .inr rfl
  · rcases (each label held).characters c member with plain | rfl
    · exact .inl (.inl (.inl plain))
    · exact .inl (.inl (.inr (.inr (.inr rfl))))
  · exact .inl (.inr (.inr rfl))
  · exact .inl (.inl (.inl (.inl (last.characters c member))))

-- An alphabet counts only as far as the characters of the text go.
theorem Shaped.mono {other : Char → Prop} (shaped : Shaped letter text) (wider : ∀ c ∈ text, letter c → other c) :
    Shaped other text := by
  obtain ⟨name,labels,top,rfl,⟨characters,c,ends,closing⟩,⟨some,each⟩,⟨letters,long⟩⟩ := shaped
  simp only [List.mem_append,List.mem_cons,List.mem_flatMap,List.not_mem_nil,or_false] at wider
  have named : ∀ c ∈ name, letter c → other c := fun c member => wider c (.inl member)
  refine ⟨name,labels,top,rfl,⟨?_,c,ends,?_⟩,⟨some,?_⟩,⟨?_,long⟩⟩
  · exact fun c member => (characters c member).imp (named c member)
  · exact Or.imp_left (Or.imp_left (named c (List.mem_of_getLast? ends))) closing
  · intro label held
    have labelled : ∀ c ∈ label, letter c → other c := fun c member =>
      wider c (.inr (.inr (.inl ⟨label,held,.inl member⟩)))
    obtain ⟨⟨first,head,alphanumeric⟩,others⟩ := each label held
    refine ⟨⟨first,head,Or.imp_left (labelled first (List.mem_of_mem_head? head)) alphanumeric⟩,?_⟩
    exact fun c member => Or.imp_left (Or.imp_left (labelled c member)) (others c member)
  · exact fun c member => wider c (.inr (.inr (.inr member))) (letters c member)

theorem ascii_iff : Address AsciiLetter text ↔
    Address CaselessLetter text ∧ ∀ c ∈ text, c ≠ 'ſ' ∧ c ≠ 'K' := by
  rw [address_iff,address_iff,@and_assoc (_ ∧ _)]
  refine and_congr_right fun _ => ?_
  constructor
  · intro shaped
    refine ⟨shaped.mono fun _ _ => .inl,?_⟩
    intro c member
    have given := shaped.characters member
    constructor
    · rintro rfl
      exact absurd given (by decide)
    · rintro rfl
      exact absurd given (by decide)
  · rintro ⟨shaped,plain⟩
    refine shaped.mono fun c member caseless => ?_
    obtain ⟨notLong,notKelvin⟩ := plain c member
    rcases caseless with ascii | long | kelvin
    · exact ascii
    · exact absurd long notLong
    · exact absurd kelvin notKelvin

theorem email_accepts_iff (raw message : String) :
    let outcome := (Check.email message).run raw
    (outcome = .ok (.text raw) ↔ Address CaselessLetter raw.toList) ∧
    (outcome = .error message ↔ ¬ Address CaselessLetter raw.toList) ∧
    (outcome = .ok (.text raw) ↔
      raw.toList ∈ pattern CaselessLetter ∧ ¬ ['.'] <+: raw.toList ∧ ¬ ['.','.'] <:+: raw.toList) ∧
    (Address AsciiLetter raw.toList ↔
      outcome = .ok (.text raw) ∧ ∀ c ∈ raw.toList, c ≠ 'ſ' ∧ c ≠ 'K') := by
  intro outcome
  have judged : outcome = Check.require (isValid raw.toList) (.text raw) message := rfl
  have accepted : outcome = .ok (.text raw) ↔ Address CaselessLetter raw.toList := by
    rw [judged,← isValid_iff,Check.require]
    split <;> simp [*]
  have refused : outcome = .error message ↔ ¬ Address CaselessLetter raw.toList := by
    rw [judged,← isValid_iff,Check.require]
    split <;> simp [*]
  refine ⟨accepted,refused,?_,?_⟩
  · rw [accepted,address_iff,mem_pattern,and_comm]
  · rw [accepted,ascii_iff]

-- A long s in the local part.
theorem email_accepts_long_s :
    ¬ ∀ raw message : String, (Check.email message).run raw = .ok (.text raw) ↔ Address AsciiLetter raw.toList := by
  intro always
  have accepted : (Check.email "").run "a\u017f@example.com" = .ok (.text "a\u017f@example.com") := by decide
  have plain := (ascii_iff.mp ((always _ _).mp accepted)).2 'ſ' (by decide)
  exact plain.1 rfl

end Mailbox
end Questionnaire
