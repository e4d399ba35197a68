import EventRollup.Proofs.Service
import EventRollup.Session

namespace EventRollup

/-- A document to be inserted, and the reading of the clock then. -/
structure Insertion where
  clock : Instant
  detached : Bool
  ns : String
  document : Document

namespace Insertion

def steps (i : Insertion) : List Step :=
  [.setClock i.clock,
    if i.detached then .insertDetached i.ns i.document else .insert i.ns i.document]

/-- No name repeats in the document, and its time, if it has one, is in a year of four digits. -/
structure Readable (field : FieldName) (i : Insertion) : Prop where
  nodup : i.document.keys.Nodup
  year : ∀ t, Event.time field i.clock i.document = .ok t → t.FourDigitYear

end Insertion

/-- Answers that list the same rows, with every time a date in one of them and its text in the
other. -/
def SameButTimes (name : String) (answer : List Document → Answer)
    (dates texts : Except Error Answer) : Prop :=
  ∃ rows : Except Error (List (TimedRow name)),
    dates = rows.map (fun l => answer (l.map (·.written .extended))) ∧
      texts = rows.map (fun l => answer (l.map (·.written .string)))

namespace Session

def filled (s : Session) (insertions : List Insertion) : Session :=
  (s.runAll (insertions.flatMap Insertion.steps)).2

def answerAt (s : Session) (clock : Instant) (step : Step) : Except Error Answer :=
  ({ s with now := clock }.run step).1.result

structure Writes (settings : Settings) (field : FieldName) (e : DateEncoding) (j : Journal)
    (s : Session) : Prop where
  service : s.service = .writing settings field Preset.standard e
  backend : s.backend.Holds field e j

variable {settings : Settings} {field : FieldName} {j : Journal}

theorem start_writing {e : DateEncoding} {opening : Instant} {ids : Nat → String} {s : Session}
    (h : start (settings.writing e) opening ids = .ok s) :
    s.service.timestampField.text = settings.timestampField ∧
      s.Writes settings s.service.timestampField e (.empty ids) := by
  obtain ⟨service, hservice, h⟩ := bind_eq_ok h
  obtain ⟨_, -, hservice⟩ := bind_eq_ok hservice
  obtain ⟨field, hfield, hservice⟩ := bind_eq_ok hservice
  rw [← Except.ok.inj h, ← Except.ok.inj hservice]
  exact ⟨FieldName.text_of_parse hfield, rfl, rfl, Store.holds_empty ids⟩

theorem run_insertion {i : Insertion} (hi : i.Readable field) (settings : Settings) (j : Journal) :
    ∃ (results : List (Except Error Answer)) (next : Journal), ∀ e (s : Session),
      s.Writes settings field e j → ∃ s' : Session, s'.Writes settings field e next ∧
        ∀ rest, (s.runAll (i.steps ++ rest)).1.map Reply.result =
            results ++ (s'.runAll rest).1.map Reply.result ∧
          (s.runAll (i.steps ++ rest)).2 = (s'.runAll rest).2 := by
  obtain ⟨r, next, hinsert⟩ :=
    Service.insert_writing settings Preset.standard i.ns j hi.nodup hi.year
  cases hdetached : i.detached with
  | true =>
      refine ⟨[.ok .done, .ok .finished], next, fun e s hs => ?_⟩
      obtain ⟨-, hnext⟩ := hinsert e s.backend hs.backend
      rw [← hs.service] at hnext
      refine ⟨⟨s.service, _, i.clock⟩, ⟨hs.service, hnext⟩, fun rest => ?_⟩
      rw [Insertion.steps, hdetached]
      exact ⟨rfl, rfl⟩
  | false =>
      refine ⟨[.ok .done, r.map .identifier], next, fun e s hs => ?_⟩
      obtain ⟨hresult, hnext⟩ := hinsert e s.backend hs.backend
      rw [← hs.service] at hresult hnext
      refine ⟨⟨s.service, _, i.clock⟩, ⟨hs.service, hnext⟩, fun rest => ?_⟩
      rw [Insertion.steps, hdetached, ← hresult]
      exact ⟨rfl, rfl⟩

theorem run_insertions {insertions : List Insertion} (h : ∀ i ∈ insertions, i.Readable field)
    (settings : Settings) (j : Journal) :
    ∃ (results : List (Except Error Answer)) (last : Journal), ∀ e (s : Session),
      s.Writes settings field e j →
        (s.runAll (insertions.flatMap Insertion.steps)).1.map Reply.result = results ∧
          (s.filled insertions).Writes settings field e last := by
  induction insertions generalizing j with
  | nil => exact ⟨[], j, fun e s hs => ⟨rfl, hs⟩⟩
  | cons i r ih =>
      obtain ⟨hi, hr⟩ := List.forall_mem_cons.1 h
      obtain ⟨first, next, hfirst⟩ := run_insertion hi settings j
      obtain ⟨others, last, hothers⟩ := ih hr next
      refine ⟨first ++ others, last, fun e s hs => ?_⟩
      obtain ⟨s', hs', hrun⟩ := hfirst e s hs
      obtain ⟨hresults, hlast⟩ := hothers e s' hs'
      obtain ⟨hreplies, hstate⟩ := hrun (r.flatMap Insertion.steps)
      rw [filled, List.flatMap_cons, hreplies, hresults, hstate]
      exact ⟨rfl, hlast⟩

section

variable {dates texts : Session} (hdates : dates.Writes settings field .extended j)
  (htexts : texts.Writes settings field .string j)

include hdates htexts

theorem sameButTimes_answerAt {answer : List Document → Answer} {step : Step} {clock : Instant}
    (rows : Except Error (List (TimedRow field.text)))
    (h : ∀ e (s : Session), s.Writes settings field e j →
      s.answerAt clock step = (rows.map (List.map (·.written e))).map answer) :
    SameButTimes field.text answer (dates.answerAt clock step) (texts.answerAt clock step) := by
  refine ⟨rows, ?_, ?_⟩
  · rw [h .extended dates hdates]
    cases rows <;> rfl
  · rw [h .string texts htexts]
    cases rows <;> rfl

variable (hfield : field.text = settings.timestampField) {clock : Instant}

include hfield

theorem querySpec_sameButTimes {spec : QuerySpec} (hspec : spec.OnTimestamp settings)
    (hrange : TimeRange.WithinFourDigits Preset.standard clock spec.range) :
    SameButTimes field.text .rows (dates.answerAt clock (.querySpec spec))
      (texts.answerAt clock (.querySpec spec)) := by
  obtain ⟨rows, hrows⟩ := Service.query_writing j hfield hspec hrange
  refine sameButTimes_answerAt hdates htexts rows fun e s hs => ?_
  rw [← hrows e s.backend hs.backend, ← hs.service]
  rfl

theorem query_sameButTimes {ns : String} {v : Json}
    (hv : ∀ body spec, QueryBody.ofJson v = .ok body → body.toSpec ns clock = .ok spec →
      spec.OnTimestamp settings ∧ TimeRange.WithinFourDigits Preset.standard clock spec.range) :
    SameButTimes field.text .rows (dates.answerAt clock (.query ns v))
      (texts.answerAt clock (.query ns v)) := by
  cases hbody : QueryBody.ofJson v with
  | error fault =>
      have hrefused (s : Session) : s.answerAt clock (.query ns v) = .error fault := by
        rw [answerAt, run, hbody]
        rfl
      exact ⟨.error fault, hrefused dates, hrefused texts⟩
  | ok body =>
      obtain ⟨rows, hrows⟩ :=
        Service.queryBody_writing j hfield fun spec hspec => hv body spec hbody hspec
      refine sameButTimes_answerAt hdates htexts rows fun e s hs => ?_
      rw [← hrows e s.backend hs.backend, ← hs.service, answerAt, run, hbody]
      rfl

theorem scan_sameButTimes {r : ScanRequest} (hon : r.range ≠ none →
      r.timestampField.getD settings.timestampField = settings.timestampField)
    (hrange : TimeRange.WithinFourDigits Preset.standard clock r.range) :
    SameButTimes field.text .documents (dates.answerAt clock (.scan r))
      (texts.answerAt clock (.scan r)) := by
  obtain ⟨found, hfound⟩ := Service.scan_writing j hfield hon hrange
  refine sameButTimes_answerAt hdates htexts (found.map (List.map (StoredEvent.row field)))
    fun e s hs => ?_
  have hscan := hfound e s.backend hs.backend
  rw [← hs.service] at hscan
  change (s.service.scan clock s.backend r).result.map Answer.documents = _
  rw [hscan]
  cases found with
  | error fault => rfl
  | ok l =>
      refine congrArg (fun l => Except.ok (Answer.documents l)) ?_
      rw [List.map_map]
      rfl

end

/-- A store of dates and a store of texts answer alike after the same insertions, if these come to
times in years of four digits. Insertions are accepted or refused alike. A query on the configured
timestamp, which it uses for nothing else, and a scan give the same rows in the same order, every
time being a date in the one and its text in the other; a range has to be on the configured
timestamp, with bounds in such years. Texts of such times are in the order of the times, to the
millisecond. -/
theorem encodings_agree {opening : Instant} {ids : Nat → String} {dates texts : Session}
    (hdates : start { settings with datesAsStrings := false } opening ids = .ok dates)
    (htexts : start { settings with datesAsStrings := true } opening ids = .ok texts)
    {insertions : List Insertion}
    (hinsertions : ∀ i ∈ insertions, i.Readable dates.service.timestampField) :
    (dates.runAll (insertions.flatMap Insertion.steps)).1.map Reply.result =
        (texts.runAll (insertions.flatMap Insertion.steps)).1.map Reply.result ∧
      (∀ clock (spec : QuerySpec), spec.OnTimestamp settings →
        TimeRange.WithinFourDigits Preset.standard clock spec.range →
        SameButTimes settings.timestampField .rows
          ((dates.filled insertions).answerAt clock (.querySpec spec))
          ((texts.filled insertions).answerAt clock (.querySpec spec))) ∧
      (∀ clock ns v, (∀ body spec, QueryBody.ofJson v = .ok body → body.toSpec ns clock = .ok spec →
          spec.OnTimestamp settings ∧
            TimeRange.WithinFourDigits Preset.standard clock spec.range) →
        SameButTimes settings.timestampField .rows
          ((dates.filled insertions).answerAt clock (.query ns v))
          ((texts.filled insertions).answerAt clock (.query ns v))) ∧
      (∀ clock (r : ScanRequest), (r.range ≠ none →
          r.timestampField.getD settings.timestampField = settings.timestampField) →
        TimeRange.WithinFourDigits Preset.standard clock r.range →
        SameButTimes settings.timestampField .documents
          ((dates.filled insertions).answerAt clock (.scan r))
          ((texts.filled insertions).answerAt clock (.scan r))) ∧
      ∀ t u : Instant, t.FourDigitYear → u.FourDigitYear →
        Ord.compare t.text u.text = Instant.compare t.toMillis u.toMillis := by
  obtain ⟨hname, hdates⟩ := start_writing (e := .extended) hdates
  obtain ⟨hname', htexts⟩ := start_writing (e := .string) htexts
  have hfield : texts.service.timestampField = dates.service.timestampField :=
    FieldName.text_injective (hname'.trans hname.symm)
  rw [hfield] at htexts
  -- from here on both sessions write one journal
  obtain ⟨results, j, hfilled⟩ := run_insertions hinsertions settings (.empty ids)
  obtain ⟨hresults, hdates⟩ := hfilled .extended dates hdates
  obtain ⟨hresults', htexts⟩ := hfilled .string texts htexts
  refine ⟨hresults.trans hresults'.symm, fun clock spec hspec hrange => ?_,
    fun clock ns v hv => ?_, fun clock r hon hrange => ?_, fun t u ht hu => ?_⟩
  · rw [← hname]
    exact querySpec_sameButTimes hdates htexts hname hspec hrange
  · rw [← hname]
    exact query_sameButTimes hdates htexts hname hv
  · rw [← hname]
    exact scan_sameButTimes hdates htexts hname hon hrange
  · exact (Instant.compare_text t u).trans (Instant.compareWritten_eq ht hu)

def opened (datesAsStrings : Bool) : Session where
  service := ⟨{ Settings.standard with datesAsStrings }, ⟨"ts", by decide⟩, Preset.standard⟩
  backend := ⟨.empty, none⟩
  now := .epoch

theorem start_opened (datesAsStrings : Bool) :
    start { Settings.standard with datesAsStrings } .epoch = .ok (opened datesAsStrings) := by
  cases datesAsStrings <;> rfl

def sighting : Document := [("_id", .int 1), ("seen", .string "1970-01-01T00:00:00.000Z")]

def insertSighting : Insertion := ⟨.epoch, false, "events", sighting⟩

theorem readable_insertSighting : ∀ i ∈ [insertSighting],
    i.Readable (opened false).service.timestampField := by
  intro i hi
  rw [List.mem_singleton.1 hi]
  refine ⟨by decide, fun t ht => ?_⟩
  rw [← Except.ok.inj ht]
  decide

def scanSeen : ScanRequest where
  ns := "events"
  range := some (.between .epoch .epoch)
  limit := some ScanRequest.standardLimit
  order := .ascending
  timestampField := some "seen"
  debug := false

def countSeen : QuerySpec where
  ns := "events"
  range := some (.between .epoch .epoch)
  dimensions := [⟨"seen", none, none⟩]
  measures := [⟨"count", none, none⟩]
  granularity := .hour
  limit := none
  timestampField := none
  debug := false

theorem encodings_agree_sighting :
    start { Settings.standard with datesAsStrings := false } .epoch = .ok (opened false) ∧
      start { Settings.standard with datesAsStrings := true } .epoch = .ok (opened true) ∧
      SameButTimes "ts" .documents
        (((opened false).filled [insertSighting]).answerAt .latest
          (.scan { scanSeen with range := none }))
        (((opened true).filled [insertSighting]).answerAt .latest
          (.scan { scanSeen with range := none })) ∧
      SameButTimes "ts" .rows
        (((opened false).filled [insertSighting]).answerAt .latest (.querySpec countSeen))
        (((opened true).filled [insertSighting]).answerAt .latest (.querySpec countSeen)) := by
  obtain ⟨-, hquery, -, hscan, -⟩ :=
    encodings_agree (start_opened false) (start_opened true) readable_insertSighting
  refine ⟨start_opened false, start_opened true, ?_, ?_⟩
  · refine hscan .latest _ (fun h => absurd rfl h) fun r w hr _ => ?_
    cases hr
  · refine hquery .latest _ ⟨rfl, by decide, by decide⟩ fun r w hr hw => ?_
    cases hr
    cases hw
    decide

/-- Over dates a scan by another time than the configured one does not see what it sees over
texts. -/
theorem scan_sighting :
    start { Settings.standard with datesAsStrings := false } .epoch = .ok (opened false) ∧
      start { Settings.standard with datesAsStrings := true } .epoch = .ok (opened true) ∧
      insertSighting.Readable (opened false).service.timestampField ∧
      TimeRange.WithinFourDigits Preset.standard .epoch scanSeen.range ∧
      ((opened false).filled [insertSighting]).answerAt .epoch (.scan scanSeen) =
        .ok (.documents []) ∧
      ((opened true).filled [insertSighting]).answerAt .epoch (.scan scanSeen) =
        .ok (.documents [sighting.insert "ts" (.string "1970-01-01T00:00:00.000Z")]) ∧
      ¬ SameButTimes "ts" .documents
        (((opened false).filled [insertSighting]).answerAt .epoch (.scan scanSeen))
        (((opened true).filled [insertSighting]).answerAt .epoch (.scan scanSeen)) := by
  let stored (e : DateEncoding) : Document := sighting.insert "ts" (e.encode .epoch)
  let seen (e : DateEncoding) : Filter :=
    Filter.timeWindow ⟨"seen", by decide⟩ (some ⟨.epoch, .epoch⟩) e
  have hdates : ((opened false).filled [insertSighting]).answerAt .epoch (.scan scanSeen) =
      .ok (.documents []) := by
    have hrun : (seen .extended).run [stored .extended] = .ok [] := rfl
    change (((seen .extended).find _ [stored .extended]).mapError Error.store).map
      Answer.documents = _
    rw [Filter.find, hrun]
    exact congrArg (fun l => Except.ok (Answer.documents (limited scanSeen.limit l)))
      List.mergeSort_nil
  have htexts : ((opened true).filled [insertSighting]).answerAt .epoch (.scan scanSeen) =
      .ok (.documents [stored .string]) := by
    have hrun : (seen .string).run [stored .string] = .ok [stored .string] := rfl
    change (((seen .string).find _ [stored .string]).mapError Error.store).map
      Answer.documents = _
    rw [Filter.find, hrun]
    exact congrArg (fun l => Except.ok (Answer.documents (limited scanSeen.limit l)))
      (List.mergeSort_singleton (stored .string))
  refine ⟨start_opened false, start_opened true,
    readable_insertSighting _ (List.mem_singleton.2 rfl), fun r w hr hw => ?_, hdates, htexts, ?_⟩
  · cases hr
    cases hw
    decide
  · rw [hdates, htexts]
    rintro ⟨rows, hrows, hrows'⟩
    cases rows with
    | error fault => cases hrows
    | ok l =>
        cases l with
        | nil => cases hrows'
        | cons r l => cases hrows

end Session

end EventRollup
