import Questionnaire.Json.Tree
import Questionnaire.Json.Value
import Questionnaire.Text.Visible
/-!
Reading typed values out of a tree. The first problem in text order is the one reported; missing
members come after all that are present.
-/

namespace Questionnaire.Json

inductive Found where
  | null
  | bool (b : Bool)
  | number (n : Number)
  | text (s : String)
  | list
  | map
deriving DecidableEq

inductive Problem where
  | malformed (fault : Fault)
  | missingField (name : String)
  | duplicateField (name : String)
  | unknownVariant (given : String) (known : List String)
  | wrongType (found : Found) (wanted : String)
  | wrongLength (length : Nat) (wanted : String)
  | notSingle
deriving DecidableEq

def Found.describe : Found → String
  | .null => "null"
  | .bool b => "boolean `" ++ (if b then "true" else "false") ++ "`"
  | .number (.whole n) => "integer `" ++ String.ofList (wholeText n) ++ "`"
  | .number (.double x) => "floating point `" ++ String.ofList (layout.text x) ++ "`"
  | .text s => "string " ++ Text.visible s
  | .list => "sequence"
  | .map => "map"

def quoteNames (names : List String) : List String := names.map fun name => "`" ++ name ++ "`"

def expectedNames (names : List String) : String :=
  match quoteNames names with
  | [] => "there are no variants"
  | [one] => "expected " ++ one
  | [one,two] => "expected " ++ one ++ " or " ++ two
  | many => "expected one of " ++ ", ".intercalate many

def countOf (n : Nat) (singular plural : String) : String :=
  toString n ++ " " ++ (if n = 1 then singular else plural)

def Problem.message : Problem → String
  | .malformed fault => fault.message
  | .missingField name => "missing field `" ++ name ++ "`"
  | .duplicateField name => "duplicate field `" ++ name ++ "`"
  | .unknownVariant given known => "unknown variant `" ++ given ++ "`, " ++ expectedNames known
  | .wrongType found wanted => "invalid type: " ++ found.describe ++ ", expected " ++ wanted
  | .wrongLength length wanted => "invalid length " ++ toString length ++ ", expected " ++ wanted
  | .notSingle => "invalid value: map, expected map with a single key"

abbrev Read (α : Type) := Except Problem α

def malformed {α : Type} (fault : Fault) : Read α := .error (.malformed fault)

def lift {α : Type} : Except Fault α → Read α
  | .ok a => .ok a
  | .error fault => malformed fault

mutual
-- What is passed over has to be well formed, but its escapes may lack their partners and its
-- numbers may be out of range.
def Tree.skip : Tree → Except Fault Unit
  | .broken fault => .error fault.skipped
  | .list items => items.skip
  | .map members => members.skip
  | _ => .ok ()
def Items.skip : Items → Except Fault Unit
  | .closed => .ok ()
  | .fault fault => .error fault.skipped
  | .cons item rest => do item.skip; rest.skip
def Members.skip : Members → Except Fault Unit
  | .closed => .ok ()
  | .fault fault => .error fault.skipped
  | .stray _ => .error .keyNotText
  | .cons _ value rest => do value.skip; rest.skip
end

mutual
def Tree.copy (levels : Nat) : Tree → Except Fault Value
  | .null => .ok .null
  | .bool b => .ok (.bool b)
  | .number none => .error .numberTooLarge
  | .number (some n) => .ok (.number n)
  | .text content => content.map .text
  | .list items => if levels = 0 then .error .tooDeep else (items.copy (levels - 1)).map .list
  | .map members => if levels = 0 then .error .tooDeep else (members.copy (levels - 1)).map .map
  | .broken fault => .error fault.kept
def Items.copy (levels : Nat) : Items → Except Fault (List Value)
  | .closed => .ok []
  | .fault fault => .error fault.kept
  | .cons item rest => do return (← item.copy levels) :: (← rest.copy levels)
def Members.copy (levels : Nat) : Members → Except Fault (List (String × Value))
  | .closed => .ok []
  | .fault fault => .error fault.kept
  | .stray _ => .error .keyNotText
  | .cons (.error fault) _ _ => .error fault
  | .cons (.ok key) value rest => do return (key,← value.copy levels) :: (← rest.copy levels)
end

def deepest : Nat := 127

def readAny (t : Tree) : Read Value := lift (t.copy deepest)

-- Whether a value is read from the text or from a copy that was kept whole. The copy is well
-- formed, and differs in how it names what it wants.
inductive Mode where
  | fromText
  | fromCopy
deriving DecidableEq

abbrev Reader (α : Type) := Mode → Tree → Read α

def Tree.found : Tree → Except Fault Found
  | .null => .ok .null
  | .bool b => .ok (.bool b)
  | .number none => .error .numberTooLarge
  | .number (some n) => .ok (.number n)
  | .text content => content.map .text
  | .list _ => .ok .list
  | .map _ => .ok .map
  | .broken fault => .error fault.kept

def mismatch {α : Type} (wanted : String) (t : Tree) : Read α := do
  .error (.wrongType (← lift t.found) wanted)

def readText : Reader String
  | _,.text (.ok s) => .ok s
  | _,t => mismatch "a string" t

def readBool : Reader Bool
  | _,.bool b => .ok b
  | _,t => mismatch "a boolean" t

def readFloat : Reader Float
  | _,.number (some n) => .ok n.toFloat
  | _,t => mismatch "f64" t

def readOption {α : Type} (read : Reader α) : Reader (Option α)
  | _,.null => .ok none
  | mode,t => (read mode t).map some

def Items.readAll {α : Type} (read : Tree → Read α) : Items → Read (List α)
  | .closed => .ok []
  | .fault place => malformed place.kept
  | .cons item rest => do
    let first ← read item
    let others ← rest.readAll read
    return first :: others

def readList {α : Type} (read : Reader α) : Reader (List α)
  | mode,.list items => items.readAll (read mode)
  | _,t => mismatch "a sequence" t

structure Tags (α : Type) where
  known : List (String × α)
  fallback : Option α := none

def Tags.named {α : Type} (tags : Tags α) (name : String) : Read α :=
  match tags.known.lookup name,tags.fallback with
  | some a,_ => .ok a
  | none,some a => .ok a
  | none,none => .error (.unknownVariant name (tags.known.map Prod.fst))

def readNothing : Reader Unit
  | _,.null => .ok ()
  | .fromCopy,.map .closed => .ok ()
  | _,t => mismatch "unit" t

def Members.expectEnd : Members → Read Unit
  | .closed => .ok ()
  | .fault place => malformed (if place.kept = .endInMap then .endInMap else .valueWanted)
  | _ => malformed .valueWanted

def Tags.read {α : Type} (tags : Tags α) : Reader α
  | _,.text (.ok name) => tags.named name
  | .fromText,.text (.error fault) => malformed fault
  | .fromText,.broken fault => malformed fault.kept
  | .fromText,.map (.cons key value rest) => do
    let a ← tags.named (← lift key)
    readNothing .fromText value
    rest.expectEnd
    return a
  | .fromText,.map (.stray t) => mismatch "variant identifier" t
  | .fromText,.map (.fault fault) =>
    malformed (if fault.kept = .endInMap then .endInValue else fault.kept)
  | .fromText,_ => malformed .valueWanted
  | .fromCopy,.map (.cons (.ok name) value .closed) => do
    let a ← tags.named name
    readNothing .fromCopy value
    return a
  | .fromCopy,.map _ => .error .notSingle
  | .fromCopy,t => mismatch "string or map" t

structure FieldReader (α : Type) where
  name : String
  required : Bool
  put : Mode → Tree → α → Read α

structure Record (α : Type) where
  title : String
  blank : α
  fields : List (FieldReader α)

def FieldReader.of {α β : Type} (name : String) (required : Bool) (read : Reader β)
    (put : β → α → α) : FieldReader α where
  name
  required
  put mode t a := do return put (← read mode t) a

namespace Record

variable {α : Type}

-- The members come in text order; `seen` are the fields already in place.
def readMembers (fields : List (FieldReader α)) (mode : Mode) :
    Members → List String → α → Read (List String × α)
  | .closed,seen,a => .ok (seen,a)
  | .fault fault,_,_ => malformed fault.kept
  | .stray _,_,_ => malformed .keyNotText
  | .cons (.error fault) _ _,_,_ => malformed fault
  | .cons (.ok key) value rest,seen,a =>
    match fields.find? (·.name == key) with
    | none => do
      lift value.skip
      readMembers fields mode rest seen a
    | some field =>
      if seen.contains key then .error (.duplicateField key)
      else do readMembers fields mode rest (key :: seen) (← field.put mode value a)

def missing? (fields : List (FieldReader α)) (seen : List String) : Option String :=
  (fields.find? fun field => field.required && !seen.contains field.name).map FieldReader.name

def expectEnd (mode : Mode) (read : Nat) : Items → Read Unit
  | .closed => .ok ()
  | .fault fault =>
    malformed (if fault.kept = .trailingComma || fault.kept = .endInList then fault.kept
      else .trailingText)
  | .cons _ rest =>
    match mode with
    | .fromText => malformed .trailingText
    | .fromCopy =>
      .error (.wrongLength (read + 1 + length rest)
        (countOf read "element in sequence" "elements in sequence"))
where
  length : Items → Nat
    | .cons _ rest => 1 + length rest
    | _ => 0

-- A list may stop early where every field left is optional.
def readItems (wanted : String) (mode : Mode) : List (FieldReader α) → Nat → Items → α → Read α
  | [],read,items,a => do
    expectEnd mode read items
    return a
  | field :: fields,read,.cons item rest,a => do
    readItems wanted mode fields (read + 1) rest (← field.put mode item a)
  | field :: fields,read,.closed,a =>
    if field.required then .error (.wrongLength read wanted)
    else readItems wanted mode fields (read + 1) .closed a
  | _ :: _,_,.fault fault,_ => malformed fault.kept

def read (record : Record α) : Reader α
  | mode,.map members => do
    let (seen,a) ← readMembers record.fields mode members [] record.blank
    match missing? record.fields seen with
    | some name => .error (.missingField name)
    | none => return a
  | mode,.list items =>
    readItems (record.title ++ " with " ++ countOf record.fields.length "element" "elements") mode
      record.fields 0 items record.blank
  | _,t => mismatch record.title t

end Record

def Document.read {α : Type} (read : Tree → Read α) (d : Document) : Read α := do
  let a ← read d.root
  if d.ended then return a else malformed .trailingText

end Questionnaire.Json
