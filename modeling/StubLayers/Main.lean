import Std.Time
import StubLayers.Cli.Run

/-!
The program. It checks the files whose names come in on standard input, one in a line; their bytes,
the current directory and the home make up the machine of the run. What the run added to files, such
as a log, is added to the files themselves.
-/

namespace StubLayers.Main

/-- The lines of a stream. -/
partial def lines (input : IO.FS.Stream) (done : Array String) : IO (Array String) := do
  let line ← input.getLine
  if line.isEmpty then return done
  lines input (done.push (String.ofList (line.toList.filter (· ≠ '\n'))))

/-- The machine with the named files. -/
def snapshot (names : List String) : IO Host := do
  let here := (Path.ofString ((← IO.getEnv "PWD").getD "/")).parts
  let home := (← IO.getEnv "HOME").getD "/"
  let bare : Host := ⟨FileTree.empty.addFolder here, here, home, []⟩
  names.foldlM (fun (host : Host) (name : String) => do
    let bytes ← IO.FS.readBinFile name
    let place := (host.absolute (Path.ofString name)).parts
    return { host with tree := host.tree.write place bytes.toList }) bare

/-- What a run added at the end of files. -/
def additions (before after : Host) : List (Components × List UInt8) :=
  after.tree.files.filterMap fun (place, bytes) =>
    let known := (before.tree.bytes? place).getD []
    if bytes.length = known.length then none else some (place, bytes.drop known.length)

/-- Add bytes at the end of a file. -/
def extend (place : Components) (bytes : List UInt8) : IO Unit := do
  let file ← IO.FS.Handle.mk (Path.render ⟨.slash, place⟩) .append
  file.write ⟨bytes.toArray⟩

def stamp : IO String := do
  return (← Std.Time.DateTime.now).format "uuuu-MM-dd HH:mm:ss,SSS "

end StubLayers.Main

def main (args : List String) : IO UInt32 := do
  let names ← StubLayers.Main.lines (← IO.getStdin) #[]
  let host ← StubLayers.Main.snapshot names.toList
  let outcome := StubLayers.Cli.run (← StubLayers.Main.stamp) host args
  IO.print outcome.stdout
  IO.eprint outcome.stderr
  (StubLayers.Main.additions host outcome.host).forM fun (place, bytes) =>
    StubLayers.Main.extend place bytes
  match outcome.ending with
  | .exit code => return code.toUInt32
  | .crash _ =>
    IO.eprintln "shimcheck: the run broke off"
    return 1
