import VersionDispatch.Command.LogFilter
import VersionDispatch.Command.Run

namespace VersionDispatch.Command

/-- The code of a system error, which may come with its sign turned. -/
def systemCode (code : UInt32) : UInt32 := min code (0 - code)

def readFault (e : IO.Error) : ReadFault :=
  match e with
  | .noFileOrDirectory .. => .notFound
  | .inappropriateType _ code _ => if systemCode code == 20 then .notDirectory else .isDirectory
  | .invalidArgument _ code _ =>
      if systemCode code == 36 then .nameTooLong else .other (toString e)
  | e => .other (toString e)

def readFile (path : String) : IO (Except ReadFault ByteArray) := do
  try
    return .ok (← IO.FS.readBinFile path)
  catch e =>
    return .error (readFault e)

def contentFor (line : CommandLine) : IO (Except ReadFault ByteArray) :=
  match line with
  | .invocation invocation =>
      match invocation.file? with
      | some path => readFile path
      | none => return .error .notFound
  | _ => return .error .notFound

end VersionDispatch.Command

open VersionDispatch.Command in
def main (args : List String) : IO UInt32 := do
  let line := CommandLine.read args
  let content ← contentFor line
  let report := line.run VersionDispatch.LogFilter.reader (← IO.getEnv "RUST_LOG") fun _ => content
  (← IO.getStdout).putStr report.stdout
  (← IO.getStderr).putStr report.stderr
  return UInt32.ofNat report.status
