import EventRollup.Environment.Path
import EventRollup.Settings

namespace EventRollup

namespace Environment

inductive Fault where
  /-- A value does not fit its setting. -/
  | malformed
  /-- A variable names a place that a list does not have. -/
  | noSuchPlace
deriving DecidableEq

structure Demo where
  ns : String
  insertInterval : Nat
  queryInterval : Nat
  range : String
deriving DecidableEq

def Demo.standard : Demo := ⟨"testMetrics", 1000, 2000, "1 Minute"⟩

structure Configuration where
  compiler : Settings
  demo : Demo
deriving DecidableEq

def standardTree : Value :=
  .table [
    ("compiler", .table [
      ("allowed_namespaces", .list (Settings.standard.allowedNamespaces.map .text)),
      ("timestamp_field", .text Settings.standard.timestampField),
      ("count_measure", .text Settings.standard.countMeasure),
      ("dates_as_strings", .flag Settings.standard.datesAsStrings)]),
    ("demo", .table [
      ("namespace", .text Demo.standard.ns),
      ("insert_interval_ms", .integer Demo.standard.insertInterval),
      ("query_interval_ms", .integer Demo.standard.queryInterval),
      ("range", .text Demo.standard.range)])]

/-- The path that a variable stands for, by its name in any case: what follows the program's name,
with two underscores for a point. -/
def pathText? (program name : String) : Option String :=
  let cs := (lower name).toList
  let first := (lower program ++ "_").toList
  if cs.take first.length = first then
    some (".".intercalate ((String.ofList (cs.drop first.length)).splitOn "__"))
  else none

/-- Takes the value of one variable. A name that is no path is that of no setting. -/
def assign (program : String) (tree : Value) (name value : String) : Except Fault Value :=
  match pathText? program name with
  | none => .ok tree
  | some text =>
    match Step.path? text.toList with
    | none => .ok tree
    | some path =>
      match (Value.parse (text = "compiler.allowed_namespaces") value).set path tree with
      | some tree => .ok tree
      | none => .error .noSuchPlace

/-- The values of a section by their fields. A table names them, a field at most once, and may hold
others; a list has them in order. -/
def fieldValues? {F : Type} [DecidableEq F] (field? : String → Option F) (order : List F) :
    Value → Option (List (F × Value))
  | .table es =>
    let known := es.filterMap fun e => (field? e.1).map fun f => (f, e.2)
    if (known.map Prod.fst).Nodup then some known else none
  | .list vs => some (order.zip vs)
  | _ => none

def readSection? {F S : Type} [DecidableEq F] (field? : String → Option F) (order : List F)
    (read : F → Value → S → Option S) (standard : S) (v : Value) : Option S := do
  (← fieldValues? field? order v).foldlM (fun s e => read e.1 e.2 s) standard

def readSetting? : Settings.Field → Value → Settings → Option Settings
  | .allowedNamespaces, v, s => v.toTexts?.map fun names => { s with allowedNamespaces := names }
  | .timestampField, v, s => v.toText?.map fun field => { s with timestampField := field }
  | .countMeasure, v, s => v.toText?.map fun field => { s with countMeasure := field }
  | .datesAsStrings, v, s => v.toFlag?.map fun b => { s with datesAsStrings := b }

def compiler? : Value → Option Settings :=
  readSection? Settings.Field.ofSpelling? Settings.Field.all readSetting? Settings.standard

inductive DemoField where
  | ns
  | insertInterval
  | queryInterval
  | range
deriving DecidableEq

namespace DemoField

def all : List DemoField := [.ns, .insertInterval, .queryInterval, .range]

def name : DemoField → String
  | .ns => "namespace"
  | .insertInterval => "insert_interval_ms"
  | .queryInterval => "query_interval_ms"
  | .range => "range"

def ofName? (name : String) : Option DemoField := all.find? fun f => f.name = name

def read? : DemoField → Value → Demo → Option Demo
  | .ns, v, d => v.toText?.map fun ns => { d with ns := ns }
  | .insertInterval, v, d => v.toCount?.map fun n => { d with insertInterval := n }
  | .queryInterval, v, d => v.toCount?.map fun n => { d with queryInterval := n }
  | .range, v, d => v.toText?.map fun range => { d with range := range }

end DemoField

def demo? : Value → Option Demo :=
  readSection? DemoField.ofName? DemoField.all DemoField.read? Demo.standard

def Configuration.ofTree? (tree : Value) : Option Configuration := do
  let compiler ← (tree.entries.lookup "compiler").elim (some Settings.standard) compiler?
  let demo ← (tree.entries.lookup "demo").elim (some Demo.standard) demo?
  return ⟨compiler, demo⟩

def configuration (program : String) (assignments : List (String × String)) :
    Except Fault Configuration := do
  let tree ← assignments.foldlM (fun tree v => assign program tree v.1 v.2) standardTree
  match Configuration.ofTree? tree with
  | some c => return c
  | none => .error .malformed

end Environment

end EventRollup
