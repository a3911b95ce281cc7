import VolumeMigration.CommandLine.Program

/-!
# The executable

Hands the words of the command line, the environment and the texts of the kubeconfig files
to `Program.run`, and writes what comes of it. There is no connection to any API server.
-/

open VolumeMigration VolumeMigration.CommandLine

/-- The texts of those files that can be read. A link is taken for the file that it leads to. -/
def VolumeMigration.readTexts (paths : List String) : IO (List (String × String)) :=
  paths.filterMapM fun (path : String) ↦ do
    match ← (IO.FS.readFile path).toBaseIO with
    | .ok text => return some (path, text)
    | .error _ => return none

def main (words : List String) : IO UInt32 := do
  let known ← Program.variableNames.filterMapM fun name ↦ do
    return (← IO.getEnv name).map (name, ·)
  let env (name : String) : Option String := known.lookup name
  let places : Surroundings := { kubeconfigVariable := env "KUBECONFIG", home := env "HOME" }
  let texts ← readTexts (Program.filesOf places env words)
  let directory := toString (← IO.currentDir)
  let surroundings := { places with files := .ofList texts directory }
  match Program.run (.offline connectionRefused) surroundings env words with
  | none => return 1
  | some finished =>
    IO.print finished.output
    finished.errors.forM fun line ↦ IO.eprintln line
    return UInt32.ofNat finished.code
