import EventRollup.Environment
import EventRollup.Json.Reader
import EventRollup.Service

namespace EventRollup

namespace CommandLine

inductive Command where
  | help
  | presets
  | plan (ns : String) (file : Option String)
deriving DecidableEq

structure PlanArguments where
  ns : Option String
  file : Option String

def PlanArguments.addNamespace (a : PlanArguments) (ns : String) : Option PlanArguments :=
  if a.ns.isNone then some { a with ns := some ns } else none

def PlanArguments.addFile (a : PlanArguments) (file : String) : Option PlanArguments :=
  if a.file.isNone ∧ file ≠ "" then some { a with file := some file } else none

def isFlag (arg : String) : Bool := arg.toList.head? = some '-' ∧ 1 < arg.length

def attachedFile? (arg : String) : Option String :=
  match arg.toList with
  | '-' :: '-' :: 'f' :: 'i' :: 'l' :: 'e' :: '=' :: r => some (String.ofList r)
  | '-' :: 'f' :: '=' :: r => some (String.ofList r)
  | '-' :: 'f' :: c :: r => some (String.ofList (c :: r))
  | _ => none

/-- Reads the arguments of a plan. After `--` everything is the namespace. -/
def planArguments? : PlanArguments → List String → Option PlanArguments
  | a, [] => some a
  | a, "--" :: r => r.foldlM (·.addNamespace ·) a
  | a, arg :: r =>
    if arg = "--file" ∨ arg = "-f" then
      match r with
      | file :: r =>
        if isFlag file then none
        else match a.addFile file with
          | some a => planArguments? a r
          | none => none
      | [] => none
    else
      match (if isFlag arg then (attachedFile? arg).bind a.addFile else a.addNamespace arg) with
      | some a => planArguments? a r
      | none => none

def Command.parse? : List String → Option Command
  | [] => some .help
  | ["presets"] | ["presets", "--"] => some .presets
  | "plan" :: r =>
    match planArguments? ⟨none, none⟩ r with
    | some ⟨some ns, file⟩ => some (.plan ns file)
    | _ => none
  | _ => none

structure Outcome where
  code : Nat
  out : String
  err : String
deriving DecidableEq

def Outcome.abort : Outcome := ⟨101, "", ""⟩

def Outcome.failure (text : String) : Outcome := ⟨1, "", "Error: " ++ text ++ "\n"⟩

/-- Where a command runs: the name of the program, its variables, its input, the files it can read
and the clock. -/
structure Surroundings where
  program : String
  assignments : List (String × String)
  input : String
  file? : String → Option String
  now : Instant

def helpText : String :=
  "Compile analytics queries into aggregation pipelines\n\n" ++
  "Commands:\n  presets  List range presets\n" ++
  "  plan     Print the aggregation pipeline for a JSON query body\n"

def planOf (s : Surroundings) (settings : Settings) (ns : String) (body : Json) :
    Except Error Plan := do
  let service ← Service.start settings
  let body ← QueryBody.ofJson body
  let spec ← body.toSpec ns s.now
  service.compile s.now spec

def runPlan (s : Surroundings) (ns : String) (file : Option String) : Outcome :=
  match Environment.configuration s.program s.assignments with
  | .error .malformed => .failure "Failed to deserialize configuration"
  | .error .noSuchPlace => .abort
  | .ok ⟨settings, _⟩ =>
    match file.elim (some s.input) s.file? with
    | none => .failure ("Failed to read " ++ file.getD "")
    | some text =>
      match Json.read? text with
      | none => .failure "Query body is not valid JSON"
      | some body =>
        match planOf s settings ns body with
        | .error (.timestamp _ .outOfReach) => .abort
        | .error e => .failure e.message
        | .ok plan => ⟨0, plan.pipeline.toJson.pretty ++ "\n", ""⟩

def run (s : Surroundings) (args : List String) : Outcome :=
  match Command.parse? args with
  | none => ⟨2, "", ""⟩
  | some .help => ⟨0, helpText ++ "\n", ""⟩
  | some .presets => ⟨0, String.join ((Preset.names Preset.standard).map (· ++ "\n")), ""⟩
  | some (.plan ns file) => runPlan s ns file

end CommandLine

end EventRollup
