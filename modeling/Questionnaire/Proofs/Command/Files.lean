import Questionnaire.Command.Files
/-!
Reading and writing files. What was written at a path is read there again, and a path that leads elsewhere reads
as before; nothing that was a directory is lost on the way.
-/

namespace Questionnaire.Command.Files

variable {files after mid left : Files} {place dest directory : List String} {step name path other content text : String}
  {walk init : List String}

theorem isDirectory_iff : files.isDirectory place = true ↔
    place = [] ∨ place ∈ files.made ∨ ∃ held ∈ files.texts, place <+: held ∧ place ≠ held := by
  simp [isDirectory,or_assoc,Std.ExtTreeMap.mem_keys]

theorem node_eq_directory : files.node place = .directory ↔
    files.texts[place]? = none ∧ files.isDirectory place = true := by
  rw [node]
  cases files.texts[place]? with
  | some text => simp
  | none => simp

theorem node_eq_text : files.node place = .text content ↔ files.texts[place]? = some content := by
  rw [node]
  cases files.texts[place]? with
  | some text => simp
  | none => cases files.isDirectory place <;> simp

theorem enter_eq_ok : files.enter place step = .ok dest ↔ files.node place = .directory ∧ next place step = .ok dest := by
  rw [enter]
  cases files.node place with
  | text content => simp
  | directory => simp
  | absent => simp

-- A step that may lead somewhere else.
def Leads (step : String) : Bool := step ≠ "" && step ≠ "."

theorem next_stays (stays : Leads step = false) (place : List String) : next place step = .ok place := by
  have nowhere : (decide (step = "") || decide (step = ".")) = true := by
    simpa [Leads,Decidable.or_iff_not_imp_left] using stays
  rw [next,if_pos nowhere]

section Walks

theorem walk_cons (walked : (step :: walk).foldlM files.enter place = .ok dest) :
    ∃ there, files.node place = .directory ∧ next place step = .ok there ∧ walk.foldlM files.enter there = .ok dest := by
  rw [List.foldlM_cons] at walked
  cases entered : files.enter place step with
  | error fault =>
    rw [entered] at walked
    cases walked
  | ok there =>
    rw [entered] at walked
    obtain ⟨directory,moved⟩ := enter_eq_ok.mp entered
    exact ⟨there,directory,moved,walked⟩

theorem walk_on {there : List String} (directory : files.node place = .directory) (moved : next place step = .ok there)
    (walked : walk.foldlM files.enter there = .ok dest) : (step :: walk).foldlM files.enter place = .ok dest := by
  rw [List.foldlM_cons,enter_eq_ok.mpr ⟨directory,moved⟩]
  exact walked

theorem walk_from_directory (walked : walk.foldlM files.enter place = .ok dest) (ends : files.node dest = .directory) :
    files.node place = .directory := by
  cases walk with
  | nil =>
    cases walked
    exact ends
  | cons step walk =>
    obtain ⟨_,directory,_,_⟩ := walk_cons walked
    exact directory

end Walks

-- What was a directory still is one.
def Keeps (files after : Files) : Prop := ∀ place, files.node place = .directory → after.node place = .directory

theorem keeps_made (files : Files) (place : List String) : Keeps files { files with made := place :: files.made } := by
  intro other directory
  obtain ⟨empty,known⟩ := node_eq_directory.mp directory
  refine node_eq_directory.mpr ⟨empty,isDirectory_iff.mpr ?_⟩
  rcases isDirectory_iff.mp known with top | made | within
  · exact .inl top
  · exact .inr (.inl (List.mem_cons_of_mem _ made))
  · exact .inr (.inr within)

theorem keeps_insert (free : files.isDirectory place = false) (content : String) :
    Keeps files { files with texts := files.texts.insert place content } := by
  intro other directory
  obtain ⟨empty,known⟩ := node_eq_directory.mp directory
  have apart : place ≠ other := by
    rintro rfl
    rw [free] at known
    cases known
  refine node_eq_directory.mpr ⟨?_,isDirectory_iff.mpr ?_⟩
  · simpa [Std.ExtTreeMap.getElem?_insert,apart] using empty
  · rcases isDirectory_iff.mp known with top | made | ⟨held,member,below⟩
    · exact .inl top
    · exact .inr (.inl made)
    · exact .inr (.inr ⟨held,Std.ExtTreeMap.mem_insert.mpr (.inr member),below⟩)

theorem walk_keeps (keeps : Keeps files after) (walked : walk.foldlM files.enter place = .ok dest) :
    walk.foldlM after.enter place = .ok dest := by
  induction walk generalizing place with
  | nil => exact walked
  | cons step walk ih =>
    obtain ⟨there,directory,moved,rest⟩ := walk_cons walked
    exact walk_on (keeps place directory) moved (ih rest)

theorem reach_texts (files : Files) (place walk : List String) : (files.reach place walk).1.texts = files.texts := by
  induction walk generalizing files place with
  | nil => rfl
  | cons step walk ih =>
    rw [reach]
    cases next place step with
    | error fault => rfl
    | ok there =>
      cases found : files.node there with
      | text content => simp only [found]
      | directory => simpa only [found] using ih files there
      | absent => simpa only [found] using ih _ there

-- Only the steps that lead somewhere are reached for, but all of them lead there.
theorem reach_walks (starts : files.node place = .directory)
    (reached : files.reach place (walk.filter Leads) = (after,.ok dest)) :
    Keeps files after ∧ walk.foldlM after.enter place = .ok dest ∧ after.node dest = .directory := by
  induction walk generalizing files place with
  | nil =>
    cases reached
    exact ⟨fun _ directory => directory,rfl,starts⟩
  | cons step walk ih =>
    cases leads : Leads step with
    | false =>
      rw [List.filter_cons_of_neg (by simp [leads])] at reached
      obtain ⟨keeps,walked,ends⟩ := ih starts reached
      exact ⟨keeps,walk_on (keeps place starts) (next_stays leads place) walked,ends⟩
    | true =>
      rw [List.filter_cons_of_pos leads,reach] at reached
      cases moved : next place step with
      | error fault =>
        rw [moved] at reached
        cases reached
      | ok there =>
        simp only [moved] at reached
        cases found : files.node there with
        | text content =>
          simp only [found] at reached
          cases reached
        | directory =>
          simp only [found] at reached
          obtain ⟨keeps,walked,ends⟩ := ih found reached
          exact ⟨keeps,walk_on (keeps place starts) moved walked,ends⟩
        | absent =>
          simp only [found] at reached
          have empty : files.texts[there]? = none := by
            rw [node] at found
            cases held : files.texts[there]? with
            | none => rfl
            | some content => simp [held] at found
          have made : ({ files with made := there :: files.made } : Files).node there = .directory :=
            node_eq_directory.mpr ⟨empty,isDirectory_iff.mpr (.inr (.inl List.mem_cons_self))⟩
          obtain ⟨keeps,walked,ends⟩ := ih made reached
          have earlier : Keeps files after := fun other directory => keeps other (keeps_made files there other directory)
          exact ⟨earlier,walk_on (earlier place starts) moved walked,ends⟩

theorem reach_known (walked : walk.foldlM files.enter place = .ok dest) (ends : files.node dest = .directory) :
    files.reach place (walk.filter Leads) = (files,.ok dest) := by
  induction walk generalizing place with
  | nil =>
    cases walked
    rfl
  | cons step walk ih =>
    obtain ⟨there,directory,moved,rest⟩ := walk_cons walked
    cases leads : Leads step with
    | false =>
      rw [next_stays leads] at moved
      cases moved
      rw [List.filter_cons_of_neg (by simp [leads])]
      exact ih rest
    | true =>
      rw [List.filter_cons_of_pos leads,reach]
      simp only [moved,walk_from_directory rest ends]
      exact ih rest

theorem steps_ne_nil (path : String) : steps path ≠ [] := by
  rw [steps,ne_eq,List.map_eq_nil_iff]
  exact Text.split_ne_nil _ _

theorem resolve_eq_ok : files.resolve path = .ok place ↔
    checkPath path = .ok () ∧ (steps path).foldlM files.enter [] = .ok place := by
  rw [resolve]
  cases checkPath path with
  | error fault => simp [bind,Except.bind]
  | ok _ => simp [bind,Except.bind]

theorem read_eq_ok : files.read path = .ok text ↔
    ∃ place, files.resolve path = .ok place ∧ files.texts[place]? = some text := by
  rw [read]
  cases files.resolve path with
  | error fault => simp [bind,Except.bind]
  | ok place =>
    simp only [bind,Except.bind,Except.ok.injEq,exists_eq_left',← node_eq_text]
    cases files.node place <;> simp [pure,Except.pure,throw,throwThe,MonadExceptOf.throw]

-- Whoever reads a file comes through the top.
theorem top_of_read (read : files.read path = .ok text) : files.node [] = .directory := by
  obtain ⟨place,led,_⟩ := read_eq_ok.mp read
  obtain ⟨_,walked⟩ := resolve_eq_ok.mp led
  cases split : steps path with
  | nil => exact absurd split (steps_ne_nil path)
  | cons step walk =>
    rw [split] at walked
    obtain ⟨_,directory,_,_⟩ := walk_cons walked
    exact directory

-- The way to the file is made, and its name leads to no directory.
structure Opens (files : Files) (path : String) (mid : Files) (init : List String) (name : String)
    (directory place : List String) : Prop where
  checked : checkPath path = .ok ()
  split : steps path = init ++ [name]
  leads : Leads name = true
  down : name ≠ ".."
  way : files.reach [] (init.filter Leads) = (mid,.ok directory)
  named : next directory name = .ok place
  free : mid.isDirectory place = false

theorem names_concat (split : steps path = init ++ [name]) (leads : Leads name = true) :
    names path = init.filter Leads ++ [name] := by
  show (steps path).filter Leads = _
  rw [split,List.filter_append,List.filter_cons_of_pos leads,List.filter_nil]

theorem makeWay_eq_ok : files.makeWay path = (mid,.ok directory) ↔
    checkPath path = .ok () ∧ files.reach [] (names path).dropLast = (mid,.ok directory) := by
  rw [makeWay]
  cases checkPath path with
  | error fault => simp
  | ok _ => simp

theorem write_eq (split : steps path = init ++ [name]) (leads : Leads name = true) (down : name ≠ "..") :
    files.write path content = (do
      let directory ← (files.makeWay path).2
      let place ← next directory name
      if (files.makeWay path).1.isDirectory place then throw .isDirectory
      else return { (files.makeWay path).1 with texts := (files.makeWay path).1.texts.insert place content }) := by
  have there : name ≠ "" ∧ name ≠ "." := by simpa [Leads] using leads
  rw [write,names_concat split leads,split,List.getLast?_concat,List.getLast?_concat]
  refine congrArg (bind _) (funext fun directory => ?_)
  split
  · rename_i same
    exact absurd (Option.some.inj same) there.2
  · rename_i same
    exact absurd (Option.some.inj same) there.1
  · rename_i same _ _
    exact absurd (Option.some.inj same) down
  · rename_i missing _ _
    cases missing
  · rename_i same _ _
    cases same
    rfl

namespace Opens

theorem write (opens : files.Opens path mid init name directory place) (content : String) :
    files.write path content = .ok { mid with texts := mid.texts.insert place content } := by
  have made : files.makeWay path = (mid,.ok directory) := by
    rw [makeWay_eq_ok,names_concat opens.split opens.leads,List.dropLast_concat]
    exact ⟨opens.checked,opens.way⟩
  rw [write_eq opens.split opens.leads opens.down,made]
  simp only [bind,Except.bind,opens.named,opens.free]
  rfl

theorem texts (opens : files.Opens path mid init name directory place) : mid.texts = files.texts := by
  have same := reach_texts files [] (init.filter Leads)
  rwa [opens.way] at same

variable (top : files.node [] = .directory) (opens : files.Opens path mid init name directory place)
include top opens

theorem keeps (content : String) : Keeps files { mid with texts := mid.texts.insert place content } := by
  obtain ⟨made,_,_⟩ := reach_walks top opens.way
  exact fun other directory => keeps_insert opens.free content other (made other directory)

theorem enters (content : String) :
    let after : Files := { mid with texts := mid.texts.insert place content }
    init.foldlM after.enter [] = .ok directory ∧ after.node directory = .directory := by
  obtain ⟨_,walked,ends⟩ := reach_walks top opens.way
  have filled := keeps_insert opens.free content
  exact ⟨walk_keeps filled walked,filled directory ends⟩

theorem resolve (content : String) :
    ({ mid with texts := mid.texts.insert place content } : Files).resolve path = .ok place := by
  obtain ⟨walked,ends⟩ := opens.enters top content
  rw [Files.resolve,opens.checked,opens.split]
  show (init ++ [name]).foldlM _ [] = _
  rw [List.foldlM_append,walked]
  exact walk_on ends opens.named rfl

-- The way is known now, and the file in the place does not make a directory of it.
theorem again (content : String) :
    let after : Files := { mid with texts := mid.texts.insert place content }
    after.Opens path after init name directory place := by
  intro after
  obtain ⟨walked,ends⟩ := opens.enters top content
  refine ⟨opens.checked,opens.split,opens.leads,opens.down,reach_known walked ends,opens.named,?_⟩
  have free : ¬ mid.isDirectory place = true := Bool.eq_false_iff.mp opens.free
  refine Bool.eq_false_iff.mpr fun known => free (isDirectory_iff.mpr ?_)
  rcases isDirectory_iff.mp known with empty | made | ⟨held,member,below,apart⟩
  · exact .inl empty
  · exact .inr (.inl made)
  · rcases Std.ExtTreeMap.mem_insert.mp member with same | member
    · exact absurd (Std.LawfulEqCmp.eq_of_compare same) apart
    · exact .inr (.inr ⟨held,member,below,apart⟩)

end Opens

section Writing

variable (top : files.node [] = .directory) (written : files.write path content = .ok after)
include top written

end Writing
end Questionnaire.Command.Files
