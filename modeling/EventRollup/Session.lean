import EventRollup.Service

namespace EventRollup

/-- A service at work on a store, under a clock that is set from outside. -/
structure Session where
  service : Service
  backend : Backend
  now : Instant

/-- A step of a session. Besides what a service offers, the clock and an outage can be set and the
store can be reached directly. -/
inductive Step where
  | setClock (now : Instant)
  | setOutage (text : Option String)
  | insert (ns : String) (d : Document)
  | insertDetached (ns : String) (d : Document)
  | query (ns : String) (body : Json)
  | querySpec (spec : QuerySpec)
  | compile (spec : QuerySpec)
  | scan (r : ScanRequest)
  | put (ns : String) (d : Document)
  | find (ns : String) (f : Filter) (options : FindOptions)
  | documents (ns : String)
  | count (ns : String)
  | isEmpty (ns : String)
  | clear (ns : String)
  | presetNames
  | settings
deriving DecidableEq

inductive Answer where
  | done
  | identifier (id : Json)
  | finished
  | rows (rows : List Document)
  | documents (docs : List Document)
  | plan (p : Plan)
  | count (n : Nat)
  | flag (b : Bool)
  | names (names : List String)
  | settings (s : Settings)
deriving DecidableEq

def Reply.map {α β : Type} (f : α → β) (r : Reply α) : Reply β := ⟨r.calls, r.result.map f⟩

namespace Session

def start (settings : Settings) (now : Instant) (ids : Nat → String := Store.numbered) :
    Except Error Session := do
  let service ← Service.start settings
  .ok { service, backend := ⟨.empty ids, none⟩, now }

/-- A detached insert answers that it has ended, whatever came of it. -/
def detached (r : Reply Json) : Reply Answer := ⟨r.calls, .ok .finished⟩

def run (s : Session) (step : Step) : Reply Answer × Session :=
  let b := s.backend
  match step with
  | .setClock now => (.own (.ok .done), { s with now })
  | .setOutage text => (.own (.ok .done), { s with backend := { b with outage := text } })
  | .insert ns d =>
    let (reply, backend) := s.service.insert s.now b ns d
    (reply.map .identifier, { s with backend })
  | .insertDetached ns d =>
    let (reply, backend) := s.service.insert s.now b ns d
    (detached reply, { s with backend })
  | .query ns body =>
    match QueryBody.ofJson body with
    | .error e => (.own (.error e), s)
    | .ok body => ((s.service.queryBody s.now b ns body).map .rows, s)
  | .querySpec spec => ((s.service.query s.now b spec).map .rows, s)
  | .compile spec => (.own ((s.service.compile s.now spec).map .plan), s)
  | .scan r => ((s.service.scan s.now b r).map .documents, s)
  | .put ns d =>
    let (result, backend) := b.insertOne ns d
    (⟨[.insertOne ns d], result.map .identifier⟩, { s with backend })
  | .find ns f options => (⟨[.find ns f options], (b.find ns f options).map .documents⟩, s)
  | .documents ns => (.own (.ok (.documents (b.store.documents ns))), s)
  | .count ns => (.own (.ok (.count (b.store.documents ns).length)), s)
  | .isEmpty ns => (.own (.ok (.flag (b.store.documents ns).isEmpty)), s)
  | .clear ns =>
    (.own (.ok (.count (b.store.documents ns).length)),
      { s with backend := { b with store := b.store.clear ns } })
  | .presetNames => (.own (.ok (.names (Preset.names s.service.presets))), s)
  | .settings => (.own (.ok (.settings s.service.settings)), s)

def runAll : Session → List Step → List (Reply Answer) × Session
  | s, [] => ([], s)
  | s, step :: r =>
    let (reply, s) := s.run step
    let (replies, s) := runAll s r
    (reply :: replies, s)

end Session

end EventRollup
