import EventRollup.Event
import EventRollup.Pipeline.Plan
import EventRollup.Query.Body
import EventRollup.Store.Collections

namespace EventRollup

/-- A store as a service sees it. During an outage every call fails with its text. -/
structure Backend where
  store : Store
  outage : Option String

namespace Backend

def insertOne (b : Backend) (ns : String) (d : Document) : Except Error Json × Backend :=
  match b.outage with
  | some text => (.error (.store (.outage text)), b)
  | none =>
    let (id, store) := b.store.insertOne ns d
    (.ok id, { b with store })

def aggregate (b : Backend) (ns : String) (p : Pipeline) : Except Error (List Document) :=
  match b.outage with
  | some text => .error (.store (.outage text))
  | none => (b.store.aggregate ns p).mapError .store

def find (b : Backend) (ns : String) (f : Filter) (options : FindOptions) :
    Except Error (List Document) :=
  match b.outage with
  | some text => .error (.store (.outage text))
  | none => (b.store.find ns f options).mapError .store

end Backend

inductive StoreCall where
  | insertOne (ns : String) (d : Document)
  | aggregate (ns : String) (p : Pipeline)
  | find (ns : String) (f : Filter) (options : FindOptions)
deriving DecidableEq

def StoreCall.ns : StoreCall → String
  | .insertOne ns _ => ns
  | .aggregate ns _ => ns
  | .find ns _ _ => ns

/-- What a request came to, with the calls made for it in their order. -/
structure Reply (α : Type) where
  calls : List StoreCall
  result : Except Error α

def Reply.own {α : Type} (result : Except Error α) : Reply α := ⟨[], result⟩

structure Service where
  settings : Settings
  timestampField : FieldName
  presets : List Preset
deriving DecidableEq

namespace Service

def start (settings : Settings) : Except Error Service := do
  settings.validate
  let timestampField ← FieldName.parse settings.timestampField
  .ok { settings, timestampField, presets := Preset.standard }

def compile (s : Service) (now : Instant) (spec : QuerySpec) : Except Error Plan := do
  s.settings.checkNamespace spec.ns
  Plan.compile s.settings s.presets spec now

def query (s : Service) (now : Instant) (b : Backend) (spec : QuerySpec) :
    Reply (List Document) :=
  match s.compile now spec with
  | .error e => .own (.error e)
  | .ok plan =>
    ⟨[.aggregate spec.ns plan.pipeline], (b.aggregate spec.ns plan.pipeline).map plan.reshape⟩

/-- The request a body makes of a namespace, which is checked before the body is looked into. -/
def specOf (s : Service) (now : Instant) (ns : String) (body : QueryBody) :
    Except Error QuerySpec := do
  s.settings.checkNamespace ns
  body.toSpec ns now

def queryBody (s : Service) (now : Instant) (b : Backend) (ns : String) (body : QueryBody) :
    Reply (List Document) :=
  match s.specOf now ns body with
  | .error e => .own (.error e)
  | .ok spec => s.query now b spec

def prepare (s : Service) (now : Instant) (ns : String) (d : Document) : Except Error Document := do
  s.settings.checkNamespace ns
  Event.normalize s.timestampField s.settings.encoding now d

def insert (s : Service) (now : Instant) (b : Backend) (ns : String) (d : Document) :
    Reply Json × Backend :=
  match s.prepare now ns d with
  | .error e => (.own (.error e), b)
  | .ok d =>
    let (result, b) := b.insertOne ns d
    (⟨[.insertOne ns d], result⟩, b)

def planScan (s : Service) (now : Instant) (r : ScanRequest) :
    Except Error (Filter × FindOptions) := do
  s.settings.checkNamespace r.ns
  let field ← r.timestampField.elim (.ok s.timestampField) FieldName.parse
  let filter ← r.range.elim (.ok .empty) fun range => do
    let window ← range.resolve s.presets now
    .ok (Filter.timeWindow field (some window) s.settings.encoding)
  .ok (filter, ⟨[(field, r.order)], r.limit⟩)

def scan (s : Service) (now : Instant) (b : Backend) (r : ScanRequest) : Reply (List Document) :=
  match s.planScan now r with
  | .error e => .own (.error e)
  | .ok (filter, options) => ⟨[.find r.ns filter options], b.find r.ns filter options⟩

end Service

end EventRollup
