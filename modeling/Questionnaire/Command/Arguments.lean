import Questionnaire.Text.Split
/-!
What the words of a command line ask for.
-/

namespace Questionnaire.Command

inductive PreviewFormat where
  | text
  | json
deriving DecidableEq, Repr

inductive Task where
  | new (out : String) (title description : Option String)
  | edit (form edits : String) (out : Option String)
  | validate (form responses : String)
  | preview (form : String) (responses : Option String) (format : PreviewFormat)
  | mask (template input : String)
  | schema
deriving DecidableEq, Repr

structure Invocation where
  config : Option String
  verbose : Bool
  task : Task
deriving DecidableEq, Repr

inductive Misuse where
  | taskWanted
  | unknownWord (word : String)
  | valueWanted (name : String)
  | valueUnwanted (name : String)
  | repeated (name : String)
  | badValue (name value : String)
  | optionWanted (name : String)
deriving DecidableEq, Repr

def Misuse.message : Misuse → String
  | .taskWanted => "one of new, edit, validate, preview, mask, schema is wanted"
  | .unknownWord word => "unexpected argument '" ++ word ++ "'"
  | .valueWanted name => "a value is wanted for '--" ++ name ++ "'"
  | .valueUnwanted name => "no value is wanted for '--" ++ name ++ "'"
  | .repeated name => "'--" ++ name ++ "' is given more than once"
  | .badValue name value => "'" ++ value ++ "' is no value for '--" ++ name ++ "'"
  | .optionWanted name => "'--" ++ name ++ "' is wanted"

inductive Takes where
  | nothing
  | text
  | path
  | format
deriving DecidableEq, Repr

abbrev Options := List (String × Takes)

abbrev Given := List (String × String)

def PreviewFormat.ofName? : String → Option PreviewFormat
  | "text" => some .text
  | "json" => some .json
  | _ => none

def accepts (takes : Takes) (value : String) : Bool :=
  match takes with
  | .nothing => false
  | .text => true
  | .path => value ≠ ""
  | .format => (PreviewFormat.ofName? value).isSome

def isDashed (word : List Char) : Bool := word.head? = some '-' && word ≠ ['-']

def Given.add (given : Given) (name : String) (takes : Takes) (value : String) :
    Except Misuse Given :=
  if (given.lookup name).isSome then .error (.repeated name)
  else if takes ≠ .nothing && !accepts takes value then .error (.badValue name value)
  else .ok ((name,value) :: given)

def Options.find (options : Options) (name : String) : Except Misuse Takes :=
  match options.lookup name with
  | some takes => .ok takes
  | none => .error (.unknownWord ("--" ++ name))

def Options.read (options : Options) (given : Given) :
    List String → Except Misuse (Given × List String)
  | [] => .ok (given,[])
  | word :: rest =>
    match word.toList with
    | ['-','-'] => .ok (given,word :: rest)
    | '-' :: '-' :: letters => do
      let name := String.ofList (letters.takeWhile (· ≠ '='))
      let takes ← options.find name
      match letters.dropWhile (· ≠ '='),takes with
      | [],.nothing => options.read (← given.add name takes "") rest
      | _ :: _,.nothing => throw (.valueUnwanted name)
      | _ :: value,_ => options.read (← given.add name takes (String.ofList value)) rest
      | [],_ =>
        match rest with
        | [] => throw (.valueWanted name)
        | value :: rest =>
          if isDashed value.toList then throw (.valueWanted name)
          else options.read (← given.add name takes value) rest
    | letters => if isDashed letters then .error (.unknownWord word) else .ok (given,word :: rest)

def everywhere : Options := [("config",.path),("verbose",.nothing)]

def Given.require (given : Given) (name : String) : Except Misuse String :=
  match given.lookup name with
  | some value => .ok value
  | none => .error (.optionWanted name)

def tasks : List (String × Options × (Given → Except Misuse Task)) := [
  ("new",[("out",.path),("title",.text),("description",.text)],fun given => do
    return .new (← given.require "out") (given.lookup "title") (given.lookup "description")),
  ("edit",[("form",.path),("edits",.path),("out",.path)],fun given => do
    return .edit (← given.require "form") (← given.require "edits") (given.lookup "out")),
  ("validate",[("form",.path),("responses",.path)],fun given => do
    return .validate (← given.require "form") (← given.require "responses")),
  ("preview",[("form",.path),("responses",.path),("format",.format)],fun given => do
    return .preview (← given.require "form") (given.lookup "responses")
      (((given.lookup "format").bind PreviewFormat.ofName?).getD .text)),
  ("mask",[("mask",.text),("input",.text)],fun given => do
    return .mask (← given.require "mask") (← given.require "input")),
  ("schema",[],fun _ => .ok .schema)]

def expectEnd : List String → Except Misuse Unit
  | [] | ["--"] => .ok ()
  | "--" :: word :: _ | word :: _ => .error (.unknownWord word)

-- An option given behind the task wins over the one before it.
def Invocation.ofWords (words : List String) : Except Misuse Invocation := do
  let (before,words) ← everywhere.read [] words
  match words with
  | [] => throw .taskWanted
  | word :: rest =>
    match tasks.lookup word with
    | none => throw (.unknownWord word)
    | some (options,make) => do
      let (behind,rest) ← Options.read (everywhere ++ options) [] rest
      expectEnd rest
      let task ← make behind
      return {
        config := behind.lookup "config" <|> before.lookup "config"
        verbose := (behind.lookup "verbose" <|> before.lookup "verbose").isSome
        task }

end Questionnaire.Command
