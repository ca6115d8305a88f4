import Questionnaire.Document.Edit
import Questionnaire.Proofs.Document.Form
/-!
Edits read back from their documents as they were. The member that names the edit is taken out and
the others are kept whole before they are read, so these must not nest too deep to be kept.
-/

namespace Questionnaire.Edit

open Json

variable {α : Type}

theorem orNull_restored {read : Reader α} {write : α → Value} {given : Option α}
    (restores : ∀ a ∈ given, Restores read write a) (filled : ∀ a, write a ≠ .null) :
    Restores (readOption read) (orNull write) given := by
  intro mode
  cases given with
  | none => rfl
  | some a => exact readOption_some (Value.tree_ne_null (filled a)) (restores a rfl mode)

theorem orNull_fits {levels : Nat} {write : α → Value} {given : Option α} (fit : ∀ a, (write a).Fits levels) :
    (orNull write given).Fits levels := by
  cases given with
  | none => exact .null
  | some a => exact fit a

theorem validation_fits {levels : Nat} (v : Validation) : v.toJson.Fits (levels + 2) := by
  have numberRule (rule : NumberRule) : rule.toJson.Fits (levels + 1) :=
    .map (by simp [Value.Fits.text,Value.Fits.number])
  have textRule (rule : TextRule) : rule.toJson.Fits (levels + 1) := .map (by simp [Value.Fits.text])
  have lengthRule (rule : LengthRule) : rule.toJson.Fits (levels + 1) :=
    .map (by simp [Value.Fits.text,Value.Fits.number])
  obtain ⟨required,rule⟩ := v
  refine .map ?_
  cases rule with
  | number rule => simpa [RuleSheet.ofValidation,optional,Value.Fits.bool,Value.Fits.text] using numberRule rule
  | text rule => simpa [RuleSheet.ofValidation,optional,Value.Fits.bool,Value.Fits.text] using textRule rule
  | length rule => simpa [RuleSheet.ofValidation,optional,Value.Fits.bool,Value.Fits.text] using lengthRule rule
  | _ => simp [RuleSheet.ofValidation,optional,Value.Fits.bool,Value.Fits.text]

theorem texts_fit {levels : Nat} (items : List String) : (Value.list (items.map .text)).Fits (levels + 1) := by
  refine .list fun item mem => ?_
  obtain ⟨s,-,rfl⟩ := List.mem_map.mp mem
  exact .text s

theorem splitName_members {levels : Nat} {members : List (String × Value)}
    (plain : ∀ member ∈ members, member.1 ≠ "op") (fit : ∀ member ∈ members, member.2.Fits levels) (shape : Option Shape) :
    splitName levels (Value.memberTrees members) shape = .ok (shape,Value.memberTrees members) := by
  induction members with
  | nil => rfl
  | cons member members ih =>
    obtain ⟨key,value⟩ := member
    obtain ⟨other,plain⟩ := List.forall_mem_cons.mp plain
    obtain ⟨shallow,fit⟩ := List.forall_mem_cons.mp fit
    rw [Value.memberTrees,splitName.eq_def]
    simp only [if_neg other,Value.memberTree,Value.copy_tree shallow,ih plain fit]
    rfl

theorem shapes_wellFormed : ∀ shape ∈ shapes,
    (shape.fields.map FieldReader.name).Nodup ∧ "op" ∉ shape.fields.map FieldReader.name := by
  decide

theorem read_op {levels : Nat} {name : String} {shape : Shape} {members : List (String × Value)} {parts : Parts}
    (named : shapes.find? (·.name = name) = some shape)
    (fits : (Value.map (("op",.text name) :: members)).Fits (levels + 1))
    (fills : Fills .fromCopy shape.fields members {} parts) :
    read (levels + 1) (Value.map (("op",.text name) :: members)).tree = .ok (shape.build parts) := by
  obtain ⟨distinct,noOp⟩ := shapes_wellFormed shape (List.mem_of_find?_eq_some named)
  have inside : ∀ member ∈ members, member.2.Fits levels := by
    cases fits with
    | map fit => exact fun member mem => fit member (List.mem_cons_of_mem _ mem)
  have plain : ∀ member ∈ members, member.1 ≠ "op" := by
    intro member mem same
    exact noOp (same ▸ fills.named member mem)
  have split : splitName levels (Value.memberTrees (("op",.text name) :: members)) none =
      .ok (some shape,Value.memberTrees members) := by
    rw [Value.memberTrees,splitName.eq_def]
    simp only [if_pos,Value.memberTree,Value.tree,readName,named,bind,Except.bind]
    exact splitName_members plain inside _
  have parsed : shape.record.read .fromCopy (Value.map members).tree = .ok parts := Record.read_map fills distinct
  rw [Value.tree,read,Nat.add_sub_cancel,split]
  show (shape.record.read .fromCopy (Value.map members).tree).map shape.build = .ok (shape.build parts)
  rw [parsed]
  rfl

theorem toJson_fits {levels : Nat} (edit : Edit) : edit.toJson.Fits (levels + 3) := by
  cases edit with
  | reorderQuestions | reorderChoices => exact .map (by simp [Value.Fits.text,texts_fit])
  | setValidation => exact .map (by simp [Value.Fits.text,orNull_fits,validation_fits])
  | _ => exact .map (by simp [Value.Fits.text,Value.Fits.bool,orNull_fits])

theorem restored (levels : Nat) (edit : Edit) : read (levels + 3) edit.toJson.tree = .ok edit := by
  have fits : edit.toJson.Fits (levels + 3) := edit.toJson_fits
  cases edit with
  | setTitle s | setDescription s => exact read_op rfl fits (.given (.text s) .done)
  | createQuestion => exact read_op rfl fits .done
  | duplicateQuestion id | removeQuestion id | addDescription id | addMask id =>
    exact read_op rfl fits (.given (.text id) .done)
  | setQuestionText id s | setQuestionDescription id s | setMask id s =>
    exact read_op rfl fits (.given (.text id) (.given (orNull_restored (fun s _ => .text s) nofun) .done))
  | setKind id kind => exact read_op rfl fits (.given (.text id) (.given (.tag (questionKind_named kind)) .done))
  | setValidation id validation =>
    have each : Restores _ (orNull Validation.toJson) validation :=
      orNull_restored (fun v _ => validation_restored v) nofun
    exact read_op rfl fits (.given (.text id) (.given each .done))
  | setRequired id b | addChoice id b => exact read_op rfl fits (.given (.text id) (.given (.bool b) .done))
  | setRuleKind id kind =>
    have each : Restores _ (orNull fun kind => .text (RuleKind.name kind)) kind :=
      orNull_restored (fun kind _ => .tag (ruleKind_named kind)) nofun
    exact read_op rfl fits (.given (.text id) (.given each .done))
  | reorderQuestions order => exact read_op rfl fits (.given (.list fun s _ => .text s) .done)
  | renameChoice id choice label =>
    exact read_op rfl fits (.given (.text id) (.given (.text choice) (.given (.text label) .done)))
  | removeChoice id choice => exact read_op rfl fits (.given (.text id) (.given (.text choice) .done))
  | reorderChoices id order =>
    exact read_op rfl fits (.given (.text id) (.given (.list fun s _ => .text s) .done))

theorem all_restored (edits : List Edit) :
    readAll (Value.list (edits.map toJson)).tree = .ok edits := by
  have each : Restores (readList fun _ => read (deepest - 1)) (fun edits => .list (edits.map toJson)) edits :=
    .list fun edit _ _ => edit.restored 123
  exact each .fromText

def thresholds : Edit → List Float
  | .setValidation _ (some v) => v.rule.thresholds
  | _ => []

theorem toJson_numbers (edit : Edit) : edit.toJson.numbers = edit.thresholds.map .double := by
  have texts (items : List String) : Value.itemNumbers (items.map .text) = [] := by
    rw [Value.itemNumbers_eq,List.flatMap_map,List.flatMap_eq_nil_iff]
    exact fun _ _ => rfl
  cases edit with
  | setQuestionText _ given | setQuestionDescription _ given | setMask _ given | setRuleKind _ given =>
    cases given <;> rfl
  | setValidation _ given =>
    cases given with
    | none => rfl
    | some v => exact (List.append_nil _).trans (validation_numbers v)
  | reorderQuestions order | reorderChoices _ order => exact (List.append_nil _).trans (texts order)
  | _ => rfl

end Questionnaire.Edit
