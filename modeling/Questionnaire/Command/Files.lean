import Questionnaire.Text.Split
import Std.Data.ExtTreeMap
/-!
The files a command works on, as texts under the names that lead to them from the working directory.
A directory is there as soon as a file is in it, and once it was made on the way to one.
-/

namespace Questionnaire.Command

inductive FileFault where
  | notFound
  | permissionDenied
  | alreadyExists
  | notDirectory
  | isDirectory
  | nameTooLong
  | notText
  | other (code : Nat) (message : String)
deriving DecidableEq, Repr

def systemFault (code : Nat) (kind message : String) : String :=
  "Os \x7b code: " ++ toString code ++ ", kind: " ++ kind ++ ", message: \"" ++ message ++ "\" \x7d"

def FileFault.text : FileFault → String
  | .notFound => systemFault 2 "NotFound" "No such file or directory"
  | .permissionDenied => systemFault 13 "PermissionDenied" "Permission denied"
  | .alreadyExists => systemFault 17 "AlreadyExists" "File exists"
  | .notDirectory => systemFault 20 "NotADirectory" "Not a directory"
  | .isDirectory => systemFault 21 "IsADirectory" "Is a directory"
  | .nameTooLong => systemFault 36 "InvalidFilename" "File name too long"
  | .notText =>
    "Error \x7b kind: InvalidData, message: \"stream did not contain valid UTF-8\" \x7d"
  | .other code message => systemFault code "Uncategorized" message

structure Files where
  texts : Std.ExtTreeMap (List String) String := ∅
  -- A path may leave a directory it made again without putting a file there.
  made : List (List String) := []

namespace Files

inductive Node where
  | text (content : String)
  | directory
  | absent
deriving DecidableEq

def isDirectory (files : Files) (place : List String) : Bool :=
  place.isEmpty || files.made.contains place ||
    files.texts.keys.any fun other => place.isPrefixOf other && place ≠ other

def node (files : Files) (place : List String) : Node :=
  match files.texts[place]? with
  | some content => .text content
  | none => if files.isDirectory place then .directory else .absent

-- Steps that lead nowhere count too: they ask for a directory.
def steps (path : String) : List String := (Text.split '/' path.toList).map String.ofList

-- Nothing outside the working directory is known.
def next (place : List String) (step : String) : Except FileFault (List String) :=
  if step = "" || step = "." then .ok place
  else if step = ".." then if place.isEmpty then .error .notFound else .ok place.dropLast
  else if 255 < step.utf8ByteSize then .error .nameTooLong
  else .ok (place ++ [step])

def enter (files : Files) (place : List String) (step : String) : Except FileFault (List String) :=
  match files.node place with
  | .text _ => .error .notDirectory
  | .absent => .error .notFound
  | .directory => next place step

def checkPath (path : String) : Except FileFault Unit :=
  if path = "" || path.toList.head? = some '/' then .error .notFound
  else if 4096 ≤ path.utf8ByteSize then .error .nameTooLong
  else .ok ()

def resolve (files : Files) (path : String) : Except FileFault (List String) := do
  checkPath path
  (steps path).foldlM files.enter []

def read (files : Files) (path : String) : Except FileFault String := do
  match files.node (← files.resolve path) with
  | .text content => return content
  | .directory => throw .isDirectory
  | .absent => throw .notFound

-- What was made stays when a later step fails.
def reach : Files → List String → List String → Files × Except FileFault (List String)
  | files,place,[] => (files,.ok place)
  | files,place,step :: rest =>
    match next place step with
    | .error fault => (files,.error fault)
    | .ok place =>
      match files.node place with
      | .text _ => (files,.error (if rest.isEmpty then .alreadyExists else .notDirectory))
      | .directory => reach files place rest
      | .absent => reach { files with made := place :: files.made } place rest

def names (path : String) : List String := (steps path).filter fun step => step ≠ "" && step ≠ "."

def makeWay (files : Files) (path : String) : Files × Except FileFault (List String) :=
  match checkPath path with
  | .error fault => (files,.error fault)
  | .ok () => files.reach [] (names path).dropLast

def write (files : Files) (path content : String) : Except FileFault Files := do
  let (files,way) := files.makeWay path
  let directory ← way
  match (steps path).getLast?,(names path).getLast? with
  | some ".",_ =>
    discard <| files.resolve path
    throw .isDirectory
  | some "",_ | _,some ".." | _,none => throw .isDirectory
  | _,some name =>
    let place ← next directory name
    if files.isDirectory place then throw .isDirectory
    else return { files with texts := files.texts.insert place content }

end Files

end Questionnaire.Command
