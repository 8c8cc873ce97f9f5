import Errand.Console
import Errand.Setup
import Errand.Stamp
import Std.Time.DateTime.Timestamp

/-!
# The program

Reads the settings, prepares an agent and answers the requests that come in,
line by line. All decisions are made elsewhere; what is here passes on what is
read and writes what is answered.

The program has no way to the network and starts no other program: whatever
needs one of these fails as it would on a machine that has neither. Files that
exist already are never written.
-/

namespace Errand.Main

/-- The text of a file, if it can be read. -/
def text? (path : String) : IO (Option String) :=
  try some <$> IO.FS.readFile path catch _ => pure none

/-- Writes a file that does not exist yet, with the directory that it is in.
What cannot be written is left. -/
def create (path text : String) : IO Unit :=
  try
    IO.FS.createDirAll (Path.parent path)
    let file ← IO.FS.Handle.mk path .writeNew
    file.putStr text
  catch _ => pure ()

/-- The environment of this process as far as it is asked for. -/
def environment (names : List String) : IO Environment := do
  let entries ← names.filterMapM fun name => do
    if name.isEmpty then pure none
    else return (← IO.getEnv name).map fun value => (name, value)
  return ⟨entries⟩

/-- The settings of this run: from the environment, and from the nearest file
that adds to it. -/
def settings : IO Settings := do
  let places := (Path.ancestors (toString (← IO.currentDir))).map fun d =>
    Path.join d ".env"
  match ← places.findSomeM? text? with
  | some file =>
    let env ← environment (Settings.names ++ Environment.namesIn file)
    return .ofEnvironment (env.extend file)
  | none => return .ofEnvironment (← environment Settings.names)

/-- A fresh stamp. -/
def stamp : IO Stamp := do
  let bytes ← IO.getRandomBytes 16
  let now := (← Std.Time.Timestamp.now).val
  return ⟨Stamp.idText (bytes.toList.map UInt8.toNat),
    Stamp.timeText now.second.val.toNat now.nano.val.toNat⟩

/-- Writes a text at once. -/
def say (text : String) : IO Unit := do
  let out ← IO.getStdout
  out.putStr text
  out.flush

/-- Answers the lines that are still to come. The time that an answer takes is
waited for before it is given. -/
partial def converse (a : Agent)
    (p : Partner Consultation.Answer ToolServer.Client)
    (st : Console.State ToolServer.Client) : IO Unit :=
  do
  let line ← (← IO.getStdin).getLine
  if line.isEmpty then return
  let now ← IO.monoNanosNow
  match Console.step a p id (← stamp) line { st with now } with
  | none => return
  | some (text, st) =>
    IO.sleep (Duration.toMillis (st.now - now)).toUInt32
    say text
    converse a p st

/-- The whole run, with its exit code. -/
def run : IO UInt32 := do
  let s ← settings
  let before : Files := ⟨← text? s.platformsPath, ← text? s.servicePath⟩
  let (setup, after) := Setup.prepare s before
  if before.platforms.isNone then after.platforms.forM (create s.platformsPath)
  if before.service.isNone then after.service.forM (create s.servicePath)
  match setup with
  | .error f =>
    (← IO.getStderr).putStr (Console.complaint f)
    return Console.failedToStart.toUInt32
  | .ok setup =>
    say (Console.banner ++ Console.prompt)
    converse setup.agent (setup.partner (Setup.outsideWith setup.browser none))
      ⟨.fresh, ← IO.monoNanosNow, setup.client⟩
    return 0

end Errand.Main

/-- The program. -/
def main : IO UInt32 := Errand.Main.run
