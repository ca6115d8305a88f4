import Questionnaire.Command.Run
import Questionnaire.Uuid
/-!
The command line. Everything a command may read is read before it runs, and what it wants written is
written after; in between it is a plain function.
-/

namespace Questionnaire.Console

open Command

def faultOf (error : IO.Error) : FileFault :=
  -- Some system calls report their codes negated.
  let named (code : UInt32) (details : String) : FileFault :=
    match (if code < 0x80000000 then code else 0 - code).toNat with
    | 2 => .notFound
    | 13 => .permissionDenied
    | 17 => .alreadyExists
    | 20 => .notDirectory
    | 21 => .isDirectory
    | 36 => .nameTooLong
    | code => .other code details
  match error with
  | .noFileOrDirectory _ code details | .interrupted _ code details
  | .alreadyExists _ code details | .invalidArgument _ code details
  | .permissionDenied _ code details | .resourceExhausted _ code details
  | .inappropriateType _ code details | .noSuchThing _ code details
  | .otherError code details | .resourceBusy code details | .resourceVanished code details
  | .unsupportedOperation code details | .hardwareFault code details
  | .unsatisfiedConstraints code details | .illegalOperation code details
  | .protocolError code details | .timeExpired code details => named code details
  | .unexpectedEof => .other 0 "unexpected end of file"
  | .userError details => .other 0 details

def readFile (path : String) : IO (Except FileFault String) := do
  try
    match String.fromUTF8? (← IO.FS.readBinFile path) with
    | some text => return .ok text
    | none => return .error .notText
  catch error => return .error (faultOf error)

def directoryOf (path : String) : String :=
  let back := (Files.steps path).reverse.dropWhile fun step => step = "" || step = "."
  "/".intercalate (back.drop 1).reverse

def writeFile (path content : String) : IO (Except FileFault Unit) := do
  try
    let directory := directoryOf path
    unless directory.isEmpty do IO.FS.createDirAll directory
    IO.FS.writeFile path content
    return .ok ()
  catch error => return .error (faultOf error)

def word : IO UInt64 := do
  return (← IO.rand 0 0xffffffff).toUInt64 <<< 32 ||| (← IO.rand 0 0xffffffff).toUInt64

def levelName : Notice.Level → String
  | .debug => "DEBUG"
  | .warning => "WARN"

def note (verbose : Bool) (notice : Notice) : IO Unit :=
  if verbose || notice.level = .warning then
    IO.eprintln (levelName notice.level ++ " " ++ notice.text)
  else return

def run (invocation : Invocation) : IO UInt32 := do
  let fallback ← IO.getEnv "FORM_BUILDER_CONFIG"
  let paths := (invocation.config <|> fallback).toList ++ invocation.task.sources
  let texts ← paths.mapM fun path => return (path,← readFile path)
  let shelf (path : String) := (texts.lookup path).getD (.error .notFound)
  let report := invocation.run shelf fallback (Uuid.source (← word) (← word))
  for notice in report.notices do note invocation.verbose notice
  let written ← match report.written with
    | some (path,content) => writeFile path content
    | none => pure (.ok ())
  let report := match written with
    | .ok () => report
    | .error fault => .failed (.file fault)
  IO.print report.output
  if let some failure := report.failure then IO.eprintln ("Error: " ++ failure.message)
  return report.exitCode.toUInt32

end Questionnaire.Console

def main (words : List String) : IO UInt32 := do
  match Questionnaire.Command.Invocation.ofWords words with
  | .ok invocation => Questionnaire.Console.run invocation
  | .error misuse =>
    IO.eprintln ("error: " ++ misuse.message)
    return 2
