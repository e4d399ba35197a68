import EventRollup.Proofs.Json.Records
import EventRollup.Proofs.Text.Scanning
import EventRollup.Query.Body

namespace EventRollup

structure BareName (name : List Char) : Prop where
  head : ∀ c ∈ name.head?, c ≠ '$' ∧ Text.isBlank c = false
  last : ∀ c ∈ name.getLast?, Text.isBlank c = false

instance (name : List Char) : Decidable (BareName name) :=
  decidable_of_iff
    ((name.head?.all fun c => c ≠ '$' ∧ Text.isBlank c = false) = true ∧
      (name.getLast?.all fun c => Text.isBlank c = false) = true) (by
    simp only [Option.all_eq_true, decide_eq_true_eq]
    exact ⟨fun h => ⟨h.1, h.2⟩, fun h => ⟨h.head, h.last⟩⟩)

theorem bareName_of_mem_names :
    ∀ name ∈ FilterOperator.table.names ++ AggregateOperator.table.names, BareName name.toList := by
  decide +kernel

/-- The text is the name, perhaps with a dollar sign in front, and with blanks around. -/
def SpellsName (s : String) (name : List Char) : Prop :=
  ∃ before dollar after, dollar ∈ [[], ['$']] ∧ (∀ b ∈ before, Text.isBlank b = true) ∧
    (∀ b ∈ after, Text.isBlank b = true) ∧ s.toList = before ++ (dollar ++ name) ++ after

def SameName (s t : String) : Prop := ∃ name, BareName name ∧ SpellsName s name ∧ SpellsName t name

theorem BareName.bareName_eq {name : List Char} (hname : BareName name) {s : String}
    (h : SpellsName s name) : bareName s = String.ofList name := by
  obtain ⟨before, dollar, after, hdollar, hbefore, hafter, hs⟩ := h
  rcases List.mem_cons.1 hdollar with rfl | hdollar
  · rw [bareName, hs, List.nil_append, Text.trimChars_between hbefore hafter
      (fun c hc => (hname.head c hc).2) hname.last]
    split
    · exact absurd rfl (hname.head '$' rfl).1
    · rfl
  · obtain rfl := List.mem_singleton.1 hdollar
    have hlast : ∀ c ∈ (['$'] ++ name).getLast?, Text.isBlank c = false := by
      cases name with
      | nil =>
          intro c hc
          obtain rfl := Option.some.inj hc
          decide
      | cons d r =>
          rw [List.singleton_append, List.getLast?_cons_cons]
          exact hname.last
    have hhead : ∀ c ∈ (['$'] ++ name).head?, Text.isBlank c = false := by
      intro c hc
      obtain rfl := Option.some.inj hc
      decide
    rw [bareName, hs, Text.trimChars_between hbefore hafter hhead hlast, List.singleton_append]
    rfl

theorem SameName.bareName_eq {s t : String} (h : SameName s t) : bareName s = bareName t := by
  obtain ⟨name, hname, hs, ht⟩ := h
  rw [hname.bareName_eq hs, hname.bareName_eq ht]

theorem toOption_optional_readName {α : Type} (parse : String → Except UnknownName α) (s : String) :
    (Json.optional (readName parse) (.string s)).toOption = (parse s).toOption.map some := by
  rw [Json.optional, readName]
  · cases parse s <;> rfl
  · intro h
    cases h

namespace OperatorTable

variable {α : Type} (table : OperatorTable α)

theorem toOption_parse (raw : String) : (table.parse raw).toOption = table.find? raw := by
  rw [parse]
  cases table.find? raw <;> rfl

theorem readName_congr {s t : String} (h : SameName s t) :
    (Json.optional (readName table.parse) (.string s)).toOption =
      (Json.optional (readName table.parse) (.string t)).toOption := by
  rw [toOption_optional_readName, toOption_optional_readName, toOption_parse, toOption_parse,
    find?, find?, h.bareName_eq]

end OperatorTable

/-- An entry that says nothing: its key is not a known one, or an optional one with null. -/
inductive Silent (known optional : List String) : String × Json → Prop
  | unknown {k : String} {v : Json} (h : k ∉ known) : Silent known optional (k, v)
  | null {k : String} (h : k ∈ optional) : Silent known optional (k, .null)

/-- One change to how an operator is written: the other key, or another text for the name. -/
inductive SameOperator : String × Json → String × Json → Prop
  | key (v : Json) : SameOperator ("op", v) ("operator", v)
  | name {k s t : String} (hk : k = "op" ∨ k = "operator") (h : SameName s t) :
      SameOperator (k, .string s) (k, .string t)

section Entries

variable {Field Fault Record : Type} [DecidableEq Field] {R : RecordReader Field Fault Record}
variable {Value : Field → Type} {W : RecordReader.FieldWise R Value} {defaults : Record}
variable (S : RecordReader.Sense W defaults) {e e' : String × Json}

theorem Silent.content_eq {known optional : List String} (h : Silent known optional e)
    (hknown : ∀ k f, R.field? k = some f → k ∈ known)
    (hoptional : ∀ k ∈ optional, ∀ f, R.field? k = some f → S.content f .null = S.absent f)
    {f : Field} (hf : R.field? e.1 = some f) : S.content f e.2 = S.absent f := by
  cases h with
  | unknown hk => exact absurd (hknown _ f hf) hk
  | null hk => exact hoptional _ hk f hf

theorem SameOperator.content_eq (h : SameOperator e e') {op : Field} (hop : R.field? "op" = some op)
    (hoperator : R.field? "operator" = some op)
    (hname : ∀ s t, SameName s t → S.content op (.string s) = S.content op (.string t)) :
    R.field? e.1 = R.field? e'.1 ∧
      ∀ f, R.field? e.1 = some f → S.content f e.2 = S.content f e'.2 := by
  cases h with
  | key v => exact ⟨hop.trans hoperator.symm, fun f _ => rfl⟩
  | @name k s t hk h =>
      have hkey : R.field? k = some op := by
        rcases hk with rfl | rfl
        · exact hop
        · exact hoperator
      refine ⟨rfl, fun f hf => ?_⟩
      obtain rfl : op = f := Option.some.inj (hkey.symm.trans hf)
      exact hname s t h

end Entries

namespace Dimension

def Value : Field → Type
  | .field => Option String
  | .op => Option FilterOperator
  | .value => Option Json

namespace Draft

def empty : Draft := ⟨none, none, none⟩

def get (d : Draft) : (f : Field) → Value f
  | .field => d.field
  | .op => d.op
  | .value => d.value

def make (x : (f : Field) → Value f) : Draft := ⟨x .field, x .op, x .value⟩

def complete? (d : Draft) : Option Dimension := d.field.map fun field => ⟨field, d.op, d.value⟩

end Draft

def parse : (f : Field) → Json → Option (Value f)
  | .field, v => (Json.readString RequestFault.malformed v).toOption.map some
  | .op, v => (Json.optional (readName FilterOperator.parse) v).toOption
  | .value, v => some (if v.isNull then none else some v)

def fieldWise : RecordReader.FieldWise reader Value where
  fields := ⟨Draft.get, Draft.make, fun _ => rfl, fun x => by funext f; cases f <;> rfl⟩
  parse := parse
  read_eq f v d := by
    cases f with
    | field =>
        simp only [reader, parse]
        cases Json.readString RequestFault.malformed v <;> rfl
    | op =>
        simp only [reader, parse]
        cases Json.optional (readName FilterOperator.parse) v <;> rfl
    | value => rfl

def Field.spelling : Field → String
  | .field => "field"
  | .op => "op"
  | .value => "value"

theorem field?_spelling (f : Field) : reader.field? f.spelling = some f := by
  cases f <;> rfl

theorem nodup_order : reader.order.Nodup := by decide

def spelledOut : Json → Json
  | .string name => .object [("field", .string name)]
  | v => v

/-- What a dimension says of its fields, or nothing if it has no form of a dimension. -/
abbrev Saying : Type := Option ((f : Field) → (fieldWise.plainSense Draft.empty).Content f → Prop)

def sense (v : Json) : Saying := fieldWise.sense Field.spelling Draft.empty (spelledOut v)

theorem toOption_ofJson (v : Json) : (ofJson v).toOption =
    (reader.readFrom Draft.empty (spelledOut v)).toOption.bind Draft.complete? := by
  have hrecord {w : Json} (hw : ∀ s, w ≠ .string s) :
      (ofJson w).toOption = (reader.readFrom Draft.empty w).toOption.bind Draft.complete? := by
    rw [ofJson]
    · rw [← Draft.empty]
      cases reader.readFrom Draft.empty w with
      | error fault => rfl
      | ok d =>
          obtain ⟨field, op, value⟩ := d
          cases field <;> rfl
    · exact hw
  cases v with
  | string s => rfl
  | _ => exact hrecord fun s hs => by cases hs

theorem spelledOnceIn_spelledOut {v : Json} (h : reader.SpelledOnceIn v) :
    reader.SpelledOnceIn (spelledOut v) := by
  cases v with
  | string s => exact List.nodup_singleton _
  | _ => exact h

/-- Dimensions that say the same are read as the same, or both refused. -/
theorem ofJson_congr {v w : Json} (hv : reader.SpelledOnceIn v) (hw : reader.SpelledOnceIn w)
    (h : sense v = sense w) : (ofJson v).toOption = (ofJson w).toOption := by
  rw [toOption_ofJson, toOption_ofJson, fieldWise.readFrom_congr field?_spelling nodup_order
    (spelledOnceIn_spelledOut hv) (spelledOnceIn_spelledOut hw) h]

abbrev EntriesRespelt : List (String × Json) → List (String × Json) → Prop :=
  RecordReader.Respelt (Silent ["field", "op", "operator", "value"] ["op", "operator", "value"])
    SameOperator

inductive Respelt : Json → Json → Prop
  | record {entries entries' : List (String × Json)} (h : EntriesRespelt entries entries') :
      Respelt (.object entries) (.object entries')
  | bare (name : String) : Respelt (.string name) (.object [("field", .string name)])
  | item {field : Json} {s t : String} {rest : List Json} (h : SameName s t) :
      Respelt (.array (field :: .string s :: rest)) (.array (field :: .string t :: rest))

theorem known_of_field? (k : String) (f : Field) (h : reader.field? k = some f) :
    k ∈ ["field", "op", "operator", "value"] := by
  by_contra hk
  simp only [List.mem_cons, List.not_mem_nil, or_false, not_or] at hk
  obtain ⟨hfield, hop, hoperator, hvalue⟩ := hk
  simp [reader, Field.ofSpelling?, hfield, hop, hoperator, hvalue] at h

theorem content_null {k : String} (hk : k ∈ ["op", "operator", "value"]) {f : Field}
    (hf : reader.field? k = some f) :
    (fieldWise.plainSense Draft.empty).content f .null =
      (fieldWise.plainSense Draft.empty).absent f := by
  simp only [List.mem_cons, List.not_mem_nil, or_false] at hk
  rcases hk with rfl | rfl | rfl <;> cases hf <;> rfl

theorem content_name {s t : String} (h : SameName s t) :
    (fieldWise.plainSense Draft.empty).content .op (.string s) =
      (fieldWise.plainSense Draft.empty).content .op (.string t) := by
  have hparse : parse .op (.string s) = parse .op (.string t) :=
    FilterOperator.table.readName_congr h
  exact fieldWise.plainSense_congr Draft.empty hparse

theorem states_respelt {entries entries' : List (String × Json)}
    (h : EntriesRespelt entries entries') :
    (fieldWise.plainSense Draft.empty).States entries =
      (fieldWise.plainSense Draft.empty).States entries' :=
  RecordReader.Sense.states_respelt _
    (fun _ he _ hf => he.content_eq _ known_of_field? (fun _ hk _ hf => content_null hk hf) hf)
    (fun _ _ he => he.content_eq _ rfl rfl fun _ _ hname => content_name hname) h

theorem sense_respelt {v w : Json} (h : Respelt v w) : sense v = sense w := by
  cases h with
  | record h => exact congrArg some (states_respelt h)
  | bare name => rfl
  | @item field s t rest h =>
      simp only [sense, spelledOut, RecordReader.FieldWise.sense, RecordReader.entriesOf,
        List.length_cons]
      split
      · exact congrArg some (states_respelt (.rewritten [("field", field)] _ (.name (.inl rfl) h)))
      · rfl

end Dimension

namespace Measure

def Value : Field → Type
  | .field => Option String
  | .op => Option AggregateOperator
  | .sort => Option SortDirection

namespace Draft

def empty : Draft := ⟨none, none, none⟩

def get (d : Draft) : (f : Field) → Value f
  | .field => d.field
  | .op => d.op
  | .sort => d.sort

def make (x : (f : Field) → Value f) : Draft := ⟨x .field, x .op, x .sort⟩

def complete? (d : Draft) : Option Measure := d.field.map fun field => ⟨field, d.op, d.sort⟩

end Draft

def parse : (f : Field) → Json → Option (Value f)
  | .field, v => (Json.readString RequestFault.malformed v).toOption.map some
  | .op, v => (Json.optional (readName AggregateOperator.parse) v).toOption
  | .sort, v => (readSort v).toOption

def fieldWise : RecordReader.FieldWise reader Value where
  fields := ⟨Draft.get, Draft.make, fun _ => rfl, fun x => by funext f; cases f <;> rfl⟩
  parse := parse
  read_eq f v d := by
    cases f with
    | field =>
        simp only [reader, parse]
        cases Json.readString RequestFault.malformed v <;> rfl
    | op =>
        simp only [reader, parse]
        cases Json.optional (readName AggregateOperator.parse) v <;> rfl
    | sort =>
        simp only [reader, parse]
        cases readSort v <;> rfl

def Field.spelling : Field → String
  | .field => "field"
  | .op => "op"
  | .sort => "sort"

theorem field?_spelling (f : Field) : reader.field? f.spelling = some f := by
  cases f <;> rfl

theorem nodup_order : reader.order.Nodup := by decide

abbrev Saying : Type := Option ((f : Field) → (fieldWise.plainSense Draft.empty).Content f → Prop)

def sense (v : Json) : Saying := fieldWise.sense Field.spelling Draft.empty v

theorem toOption_ofJson (v : Json) :
    (ofJson v).toOption = (reader.readFrom Draft.empty v).toOption.bind Draft.complete? := by
  rw [ofJson, ← Draft.empty]
  cases reader.readFrom Draft.empty v with
  | error fault => rfl
  | ok d =>
      obtain ⟨field, op, sort⟩ := d
      cases field <;> rfl

theorem ofJson_congr {v w : Json} (hv : reader.SpelledOnceIn v) (hw : reader.SpelledOnceIn w)
    (h : sense v = sense w) : (ofJson v).toOption = (ofJson w).toOption := by
  rw [toOption_ofJson, toOption_ofJson,
    fieldWise.readFrom_congr field?_spelling nodup_order hv hw h]

/-- An entry that says nothing of a measure. A measure without an order may say so. -/
inductive Idle : String × Json → Prop
  | silent {e : String × Json}
      (h : Silent ["field", "op", "operator", "sort"] ["op", "operator", "sort"] e) : Idle e
  | unsorted {t : String} (h : t ∈ ["none", ""]) : Idle ("sort", .string t)

abbrev EntriesRespelt : List (String × Json) → List (String × Json) → Prop :=
  RecordReader.Respelt Idle SameOperator

inductive Respelt : Json → Json → Prop
  | record {entries entries' : List (String × Json)} (h : EntriesRespelt entries entries') :
      Respelt (.object entries) (.object entries')
  | item {field : Json} {s t : String} {rest : List Json} (h : SameName s t) :
      Respelt (.array (field :: .string s :: rest)) (.array (field :: .string t :: rest))
  | unsorted {field op : Json} {t : String} (h : t ∈ ["none", ""]) :
      Respelt (.array [field, op]) (.array [field, op, .string t])

theorem known_of_field? (k : String) (f : Field) (h : reader.field? k = some f) :
    k ∈ ["field", "op", "operator", "sort"] := by
  by_contra hk
  simp only [List.mem_cons, List.not_mem_nil, or_false, not_or] at hk
  obtain ⟨hfield, hop, hoperator, hsort⟩ := hk
  simp [reader, Field.ofSpelling?, hfield, hop, hoperator, hsort] at h

theorem content_null {k : String} (hk : k ∈ ["op", "operator", "sort"]) {f : Field}
    (hf : reader.field? k = some f) :
    (fieldWise.plainSense Draft.empty).content f .null =
      (fieldWise.plainSense Draft.empty).absent f := by
  simp only [List.mem_cons, List.not_mem_nil, or_false] at hk
  rcases hk with rfl | rfl | rfl <;> cases hf <;> rfl

theorem content_unsorted {t : String} (h : t ∈ ["none", ""]) :
    (fieldWise.plainSense Draft.empty).content .sort (.string t) =
      (fieldWise.plainSense Draft.empty).absent .sort := by
  simp only [List.mem_cons, List.not_mem_nil, or_false] at h
  rcases h with rfl | rfl <;> rfl

theorem content_name {s t : String} (h : SameName s t) :
    (fieldWise.plainSense Draft.empty).content .op (.string s) =
      (fieldWise.plainSense Draft.empty).content .op (.string t) := by
  have hparse : parse .op (.string s) = parse .op (.string t) :=
    AggregateOperator.table.readName_congr h
  exact fieldWise.plainSense_congr Draft.empty hparse

theorem states_respelt {entries entries' : List (String × Json)}
    (h : EntriesRespelt entries entries') :
    (fieldWise.plainSense Draft.empty).States entries =
      (fieldWise.plainSense Draft.empty).States entries' := by
  refine RecordReader.Sense.states_respelt _ (fun e he f hf => ?_)
    (fun _ _ he => he.content_eq _ rfl rfl fun _ _ hname => content_name hname) h
  cases he with
  | silent he => exact he.content_eq _ known_of_field? (fun _ hk _ hf => content_null hk hf) hf
  | unsorted ht =>
      obtain rfl : Field.sort = f := Option.some.inj hf
      exact content_unsorted ht

theorem sense_respelt {v w : Json} (h : Respelt v w) : sense v = sense w := by
  cases h with
  | record h => exact congrArg some (states_respelt h)
  | @item field s t rest h =>
      simp only [sense, RecordReader.FieldWise.sense, RecordReader.entriesOf, List.length_cons]
      split
      · exact congrArg some (states_respelt (.rewritten [("field", field)] _ (.name (.inl rfl) h)))
      · rfl
  | @unsorted field op t h =>
      exact congrArg some (states_respelt (.added [("field", field), ("op", op)] [] (.unsorted h)))

end Measure

end EventRollup
