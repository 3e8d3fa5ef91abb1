import HelpWiring.Command.Ending

/-!
# The Program

Carries out its arguments on the disk of the machine, prints what is to be
printed, and ends with the exit status. All decisions are made in
`HelpWiring.Command.Ending`; here is only what reads and writes.
-/

namespace HelpWiring

/-- What the operating system says about an error. -/
def reasonOf : IO.Error → Text
  | .noFileOrDirectory _ code details | .alreadyExists _ code details
  | .permissionDenied _ code details | .resourceExhausted _ code details
  | .inappropriateType _ code details | .invalidArgument _ code details
  | .noSuchThing _ code details | .interrupted _ code details
  | .otherError code details | .resourceBusy code details | .resourceVanished code details
  | .unsupportedOperation code details | .hardwareFault code details
  | .unsatisfiedConstraints code details | .illegalOperation code details
  | .protocolError code details | .timeExpired code details =>
    details.toList ++ " (os error ".toList ++ Text.ofNat code.toNat ++ [')']
  | .unexpectedEof => "unexpected end of file".toList
  | .userError message => message.toList

/-- The disk of the machine. -/
def machineDisk : Disk IO where
  holds path := do
    if path.contains '\x00' then return false
    try
      let _ ← IO.FS.realPath (String.ofList path)
      return true
    catch _ => return false
  read path := do
    if path.contains '\x00' then return .error PathFault.nullInName.message
    try
      match Contents.ofOctets (← IO.FS.readBinFile (String.ofList path)) with
      | .text t => return .ok t
      | .binary _ => return .error PathFault.notText.message
    catch e => return .error (reasonOf e)
  write path text := do
    try
      IO.FS.writeFile (String.ofList path) (String.ofList text)
      return .ok ()
    catch e => return .error (reasonOf e)

/-- What the program says about itself when it is asked. -/
def usage : Manual
  | .program, _ => "Usage: pagepatch <run|dedupe|help> [options]\n".toList
  | .command .wire, _ =>
    "Usage: pagepatch run [--root path] [--catalog path] [--json] [--only kinds]\n".toList
  | .command .clean, _ =>
    "Usage: pagepatch dedupe [--root path] [--catalog path] [--json]\n".toList
  | .help, _ => "Usage: pagepatch help [run|dedupe|help]\n".toList

end HelpWiring

/-- Runs the program. -/
def main (args : List String) : IO UInt32 := do
  let environment ← IO.getEnv "PAGEPATCH_ROOT"
  let ending ← HelpWiring.command HelpWiring.machineDisk HelpWiring.usage
    (args.map String.toList) (environment.map String.toList)
  IO.print (String.ofList ending.output)
  IO.eprint (String.ofList ending.complaint)
  return UInt32.ofNat ending.code
