import EventRollup.Proofs.Number.DecimalText
import EventRollup.Proofs.Time.Encoding

namespace EventRollup

namespace Timestamp

theorem nanosOf_eq (ds : List Char) :
    nanosOf ds = Text.digitsValue ((ds ++ List.replicate 9 '0').take 9) := by
  have hzeros (n : Nat) : Text.digitsValue (List.replicate n '0') = 0 := Text.digitsValue_zeros n
  rw [nanosOf, List.take_append, List.take_replicate, Text.digitsValue_append, hzeros,
    List.length_replicate, List.length_take]
  congr 2
  omega

/-- A time of day as it is written: hour, minute and second in two digits each, then a point and the
digits of a fraction if there are any. -/
structure Clock where
  hour : Nat
  minute : Nat
  second : Nat
  fraction : List Char

namespace Clock

/-- A leap second is written as second 60. -/
structure Valid (c : Clock) : Prop where
  hour : c.hour < 24
  minute : c.minute < 60
  second : c.second ≤ 60
  fraction : ∀ d ∈ c.fraction, d.isDigit = true

def fractionChars (c : Clock) : List Char :=
  if c.fraction = [] then [] else '.' :: c.fraction

def chars (c : Clock) : List Char :=
  Text.padded 2 c.hour ++ ':' :: (Text.padded 2 c.minute ++ ':' :: (Text.padded 2 c.second ++
    c.fractionChars))

/-- Seconds since the epoch of the time of day on a date, both in UTC. Second 60 belongs to the
second before it. -/
def secondsOn (c : Clock) (d : Date) : Int :=
  d.dayNumber * 86400 + c.hour * 3600 + c.minute * 60 + (min c.second 59 : Nat)

/-- The first nine digits of the fraction, and a whole second more for second 60. -/
def nanos (c : Clock) : Nat :=
  Text.digitsValue ((c.fraction ++ List.replicate 9 '0').take 9) +
    (if c.second = 60 then 1000000000 else 0)

def midnight : Clock := ⟨0, 0, 0, []⟩

def onDate (c : Clock) (d : Date) : Local := ⟨d, c.hour, c.minute, c.second, nanosOf c.fraction⟩

end Clock

/-- What may stand behind a time of day: `Z`, or how far local time is ahead of UTC or behind. -/
inductive Zone where
  | zulu
  | ahead (hours minutes : Nat)
  | behind (hours minutes : Nat)

namespace Zone

def Valid : Zone → Prop
  | .zulu => True
  | .ahead hours minutes => hours < 24 ∧ minutes < 60
  | .behind hours minutes => hours < 24 ∧ minutes < 60

def minutes : Zone → Int
  | .zulu => 0
  | .ahead hours minutes => hours * 60 + minutes
  | .behind hours minutes => -(hours * 60 + minutes)

def chars : Zone → List Char
  | .zulu => ['Z']
  | .ahead hours minutes => '+' :: (Text.padded 2 hours ++ ':' :: Text.padded 2 minutes)
  | .behind hours minutes => '-' :: (Text.padded 2 hours ++ ':' :: Text.padded 2 minutes)

theorem offset?_chars {z : Zone} (hz : z.Valid) : offset? z.chars = some (z.minutes, []) := by
  have hpairs {hours minutes : Nat} (h : hours < 24 ∧ minutes < 60) :
      Text.exactDigits? 2 (Text.padded 2 hours ++ ':' :: Text.padded 2 minutes) =
          some (hours, ':' :: Text.padded 2 minutes) ∧
        Text.exactDigits? 2 (Text.padded 2 minutes) = some (minutes, []) := by
    refine ⟨Text.exactDigits?_padded (by decide) (show hours < 100 by omega) _, ?_⟩
    rw [← List.append_nil (Text.padded 2 minutes)]
    exact Text.exactDigits?_padded (by decide) (show minutes < 100 by omega) []
  cases z with
  | zulu => rfl
  | ahead hours minutes =>
      obtain ⟨hhours, hminutes⟩ := hpairs hz
      simp only [chars, offset?, hhours, hminutes, literal?, if_true, bind, Option.bind,
        Zone.minutes, Int.one_mul]
      exact if_pos hz
  | behind hours minutes =>
      obtain ⟨hhours, hminutes⟩ := hpairs hz
      simp only [chars, offset?, hhours, hminutes, literal?, if_true, bind, Option.bind,
        Zone.minutes, Int.neg_mul, Int.one_mul]
      exact if_pos hz

end Zone

variable {d : Date} {c : Clock}

theorem fraction?_chars (hc : c.Valid) {r : List Char}
    (hr : ∀ x ∈ r.head?, x.isDigit = false ∧ x ≠ '.') :
    fraction? (c.fractionChars ++ r) = some (nanosOf c.fraction, r) := by
  rw [Clock.fractionChars]
  split
  · rename_i hnil
    rw [hnil, List.nil_append]
    cases r with
    | nil => rfl
    | cons x s =>
        rw [fraction?]
        · rfl
        · rintro s' hs
          exact (hr x rfl).2 (List.cons.inj hs).1
  · rename_i hne
    rw [List.cons_append, fraction?, Text.digitRun?_append hc.fraction hne fun x hx => (hr x hx).1]
    rfl

theorem rfc3339?_written (hd : d.Valid) (hyear : 0 ≤ d.year ∧ d.year ≤ 9999) (hc : c.Valid)
    {x : Char} (hx : x = 'T' ∨ x = ' ') {r : List Char}
    (hr : ∀ x ∈ r.head?, x.isDigit = false ∧ x ≠ '.') :
    rfc3339? (d.chars ++ x :: (c.chars ++ r)) = (offset? r).bind fun (minutes, rest) =>
      if rest.isEmpty then (c.onDate d).instant? minutes else none := by
  have hlast := hd.day_le
  obtain ⟨h1, h12, hday, -⟩ := hd
  have two : 0 < 2 := by decide
  have hseparator (s : List Char) : separator? (x :: s) = some s := by
    rcases hx with rfl | rfl <;> rfl
  have hdate : (⟨(d.year.toNat : Int), (d.month.toNat : Int), (d.day.toNat : Int)⟩ : Date) = d := by
    rw [Int.toNat_of_nonneg hyear.1, Int.toNat_of_nonneg (Int.le_trans (by decide) h1),
      Int.toNat_of_nonneg (Int.le_trans (by decide) hday)]
  have hhour := hc.hour
  have hminute := hc.minute
  have hsecond := hc.second
  simp only [Date.chars, Date.yearChars, if_pos hyear, Clock.chars, List.append_assoc,
    List.cons_append, rfc3339?,
    Text.exactDigits?_padded (by decide : 0 < 4) (show d.year.toNat < 10000 by omega),
    Text.exactDigits?_padded two (show d.month.toNat < 100 by omega),
    Text.exactDigits?_padded two (show d.day.toNat < 100 by omega),
    Text.exactDigits?_padded two (show c.hour < 100 by omega),
    Text.exactDigits?_padded two (show c.minute < 100 by omega),
    Text.exactDigits?_padded two (show c.second < 100 by omega),
    literal?, if_true, hseparator, fraction?_chars hc hr, hdate, bind, Option.bind, Clock.onDate]

theorem looseTime?_chars (hc : c.Valid) : looseTime? d c.chars = some (c.onDate d) := by
  have hhour := hc.hour
  have hminute := hc.minute
  have hsecond := hc.second
  have hfraction := fraction?_chars (r := []) hc fun x hx => by cases hx
  rw [List.append_nil] at hfraction
  simp only [Clock.chars, looseTime?, loosePair?_padded (show c.hour < 100 by omega),
    loosePair?_padded (show c.minute < 100 by omega),
    loosePair?_padded (show c.second < 100 by omega), literal?, if_true, hfraction, bind,
    Option.bind, List.isEmpty_nil, Clock.onDate]

theorem naive?_written (hd : d.Valid) (hc : c.Valid) {x : Char} (hx : x = 'T' ∨ x = ' ') :
    naive? (d.chars ++ x :: c.chars) = (c.onDate d).instant? 0 := by
  have hblanks : skipBlanks (' ' :: c.chars) = c.chars := by
    rw [skipBlanks, List.dropWhile_cons_of_pos (by decide), Clock.chars]
    exact skipBlanks_padded 2 c.hour _
  rcases hx with rfl | rfl
  · simp only [naive?, looseDate?_chars hd, looseTime?_chars hc, bind, Option.bind]
  · rw [naive?, looseDate?_chars hd]
    change (looseTime? d (skipBlanks (' ' :: c.chars))).bind (fun l => l.instant? 0) = _
    rw [hblanks, looseTime?_chars hc]
    rfl

/-- A date alone is read as such by the last of the forms and by no other. -/
theorem forms_of_date (hd : d.Valid) (hyear : 0 ≤ d.year ∧ d.year ≤ 9999) :
    rfc3339? d.chars = none ∧ naive? d.chars = none ∧
      midnight? d.chars = Local.instant? ⟨d, 0, 0, 0, 0⟩ 0 := by
  have hlast := hd.day_le
  have hread := looseDate?_chars hd []
  rw [List.append_nil] at hread
  obtain ⟨h1, h12, hday, -⟩ := hd
  have two : 0 < 2 := by decide
  have hdays := Text.exactDigits?_padded two (show d.day.toNat < 100 by omega) []
  rw [List.append_nil] at hdays
  refine ⟨?_, ?_, ?_⟩
  · simp only [Date.chars, Date.yearChars, if_pos hyear, rfc3339?,
      Text.exactDigits?_padded (by decide : 0 < 4) (show d.year.toNat < 10000 by omega),
      Text.exactDigits?_padded two (show d.month.toNat < 100 by omega), hdays, literal?, if_true,
      separator?, bind, Option.bind]
  · simp only [naive?, hread, bind, Option.bind]
    rfl
  · simp only [midnight?, hread, bind, Option.bind, List.isEmpty_nil, if_true]

theorem nanosOf_lt {ds : List Char} (hds : ∀ x ∈ ds, x.isDigit = true) :
    nanosOf ds < 1000000000 := by
  have hdigits : ∀ x ∈ (ds ++ List.replicate 9 '0').take 9, x.isDigit = true := by
    intro x hx
    rcases List.mem_append.1 (List.mem_of_mem_take hx) with hmem | hmem
    · exact hds x hmem
    · rw [(List.mem_replicate.1 hmem).2]
      rfl
  have hlt := Text.digitsValue_lt hdigits
  have hlength : ((ds ++ List.replicate 9 '0').take 9).length = 9 := by
    rw [List.length_take, List.length_append, List.length_replicate]
    omega
  rw [hlength] at hlt
  rw [nanosOf_eq]
  exact hlt

theorem instant?_onDate (hd : d.Valid) (hyear : 0 ≤ d.year ∧ d.year ≤ 9999) (hc : c.Valid)
    {minutes : Int} (hm : -1440 < minutes ∧ minutes < 1440) :
    ∃ t, (c.onDate d).instant? minutes = some t ∧ t.seconds = c.secondsOn d - minutes * 60 ∧
      t.nanos = c.nanos := by
  have hnanos := nanosOf_lt hc.fraction
  have hfirst : Date.dayNumber ⟨0, 1, 1⟩ = -719528 := rfl
  have hafter : Date.dayNumber ⟨10000, 1, 1⟩ = 2932897 := rfl
  have hfrom := Date.newYear_le_iff hd 0
  have hbefore := Date.newYear_le_iff hd 10000
  have hhour := hc.hour
  have hminute := hc.minute
  have hsecond := hc.second
  have hleap : nanosOf c.fraction + (c.second - min c.second 59) * 1000000000 = c.nanos := by
    rw [Clock.nanos, ← nanosOf_eq]
    split <;> omega
  rw [Local.instant?, if_pos ⟨hd, hhour, hminute, hsecond, hnanos⟩]
  dsimp only [Clock.onDate]
  rw [hleap, Instant.ofSeconds?, dif_pos]
  · exact ⟨_, rfl, rfl, rfl⟩
  · rw [← hleap]
    omega

theorem chars_nonblank (hc : c.Valid) : ∀ x ∈ c.chars, Text.isBlank x = false := by
  have hpadded (n : Nat) : ∀ x ∈ Text.padded 2 n, Text.isBlank x = false := fun x hx =>
    Text.not_isBlank_of_isDigit (Text.isDigit_of_mem_padded hx)
  have hfraction : ∀ x ∈ c.fractionChars, Text.isBlank x = false := by
    rw [Clock.fractionChars]
    split
    · exact fun x hx => by cases hx
    · exact List.forall_mem_cons.2
        ⟨by decide, fun x hx => Text.not_isBlank_of_isDigit (hc.fraction x hx)⟩
  rw [Clock.chars]
  exact List.forall_mem_append.2 ⟨hpadded _, List.forall_mem_cons.2 ⟨by decide,
    List.forall_mem_append.2 ⟨hpadded _, List.forall_mem_cons.2 ⟨by decide,
      List.forall_mem_append.2 ⟨hpadded _, hfraction⟩⟩⟩⟩⟩

theorem Zone.chars_nonblank (z : Zone) : ∀ x ∈ z.chars, Text.isBlank x = false := by
  have hpairs (sign : Char) (hsign : Text.isBlank sign = false) (hours minutes : Nat) :
      ∀ x ∈ sign :: (Text.padded 2 hours ++ ':' :: Text.padded 2 minutes),
        Text.isBlank x = false := by
    have hpadded (n : Nat) : ∀ x ∈ Text.padded 2 n, Text.isBlank x = false := fun x hx =>
      Text.not_isBlank_of_isDigit (Text.isDigit_of_mem_padded hx)
    exact List.forall_mem_cons.2 ⟨hsign, List.forall_mem_append.2 ⟨hpadded _,
      List.forall_mem_cons.2 ⟨by decide, hpadded _⟩⟩⟩
  cases z with
  | zulu => exact fun x hx => by rw [List.mem_singleton.1 hx]; decide
  | ahead hours minutes => exact hpairs '+' (by decide) hours minutes
  | behind hours minutes => exact hpairs '-' (by decide) hours minutes

theorem instant?_between {cs : List Char} (hhead : ∀ x ∈ cs.head?, Text.isBlank x = false)
    (hlast : ∀ x ∈ cs.getLast?, Text.isBlank x = false) {before after : List Char}
    (hbefore : ∀ b ∈ before, Text.isBlank b = true) (hafter : ∀ b ∈ after, Text.isBlank b = true) :
    instant? (String.ofList (before ++ cs ++ after)) =
      (rfc3339? cs <|> naive? cs <|> midnight? cs) := by
  rw [instant?, String.toList_ofList, Text.trimChars_between hbefore hafter hhead hlast]

theorem date_nonblank (hyear : 0 ≤ d.year ∧ d.year ≤ 9999) :
    ∀ x ∈ d.chars, Text.isBlank x = false := by
  have hpadded (width n : Nat) : ∀ x ∈ Text.padded width n, Text.isBlank x = false := fun x hx =>
    Text.not_isBlank_of_isDigit (Text.isDigit_of_mem_padded hx)
  rw [Date.chars, Date.yearChars, if_pos hyear]
  exact List.forall_mem_append.2 ⟨hpadded 4 _, List.forall_mem_cons.2 ⟨by decide,
    List.forall_mem_append.2 ⟨hpadded 2 _, List.forall_mem_cons.2 ⟨by decide, hpadded 2 _⟩⟩⟩⟩

theorem date_ne_nil (d : Date) : d.chars ≠ [] := by
  rw [Date.chars]
  exact List.append_ne_nil_of_right_ne_nil _ (List.cons_ne_nil _ _)

theorem clock_ne_nil (c : Clock) : c.chars ≠ [] := by
  rw [Clock.chars]
  exact List.append_ne_nil_of_right_ne_nil _ (List.cons_ne_nil _ _)

theorem instant?_written (hyear : 0 ≤ d.year ∧ d.year ≤ 9999) (hc : c.Valid) (x : Char)
    {r : List Char} (hr : ∀ y ∈ r, Text.isBlank y = false) {before after : List Char}
    (hbefore : ∀ b ∈ before, Text.isBlank b = true) (hafter : ∀ b ∈ after, Text.isBlank b = true) :
    instant? (String.ofList (before ++ (d.chars ++ x :: (c.chars ++ r)) ++ after)) =
      (rfc3339? (d.chars ++ x :: (c.chars ++ r)) <|> naive? (d.chars ++ x :: (c.chars ++ r)) <|>
        midnight? (d.chars ++ x :: (c.chars ++ r))) := by
  have hback : ∀ y ∈ c.chars ++ r, Text.isBlank y = false :=
    List.forall_mem_append.2 ⟨chars_nonblank hc, hr⟩
  have hne : c.chars ++ r ≠ [] := List.append_ne_nil_of_left_ne_nil (clock_ne_nil c) r
  refine instant?_between (Text.head?_nonblank (date_nonblank hyear) (date_ne_nil d) _) ?_ hbefore
    hafter
  rw [List.append_cons]
  exact Text.getLast?_nonblank hback hne _

theorem Zone.minutes_bounds {z : Zone} (hz : z.Valid) : -1440 < z.minutes ∧ z.minutes < 1440 := by
  cases z with
  | zulu => exact ⟨by decide, by decide⟩
  | ahead hours minutes =>
      have hlt : hours < 24 ∧ minutes < 60 := hz
      rw [Zone.minutes]
      omega
  | behind hours minutes =>
      have hlt : hours < 24 ∧ minutes < 60 := hz
      rw [Zone.minutes]
      omega

theorem rfc3339?_zoned (hd : d.Valid) (hyear : 0 ≤ d.year ∧ d.year ≤ 9999) (hc : c.Valid) {x : Char}
    (hx : x = 'T' ∨ x = ' ') {z : Zone} (hz : z.Valid) :
    rfc3339? (d.chars ++ x :: (c.chars ++ z.chars)) = (c.onDate d).instant? z.minutes := by
  have hhead : ∀ y ∈ z.chars.head?, y.isDigit = false ∧ y ≠ '.' := by
    intro y hy
    cases z <;> (cases hy; decide)
  rw [rfc3339?_written hd hyear hc hx hhead, Zone.offset?_chars hz]
  rfl

theorem instant?_bare (hd : d.Valid) (hyear : 0 ≤ d.year ∧ d.year ≤ 9999) (hc : c.Valid) {x : Char}
    (hx : x = 'T' ∨ x = ' ') {before after : List Char}
    (hbefore : ∀ b ∈ before, Text.isBlank b = true) (hafter : ∀ b ∈ after, Text.isBlank b = true)
    {t : Instant} (ht : (c.onDate d).instant? 0 = some t) :
    instant? (String.ofList (before ++ (d.chars ++ x :: c.chars) ++ after)) = some t := by
  have hstrict := rfc3339?_written (r := []) hd hyear hc hx fun y hy => by cases hy
  have hread := instant?_written (r := []) hyear hc x (fun y hy => by cases hy) hbefore hafter
  rw [List.append_nil] at hstrict hread
  rw [hread, hstrict, naive?_written hd hc hx, ht]
  rfl

theorem instant?_zoned (hd : d.Valid) (hyear : 0 ≤ d.year ∧ d.year ≤ 9999) (hc : c.Valid) {x : Char}
    (hx : x = 'T' ∨ x = ' ') {z : Zone} (hz : z.Valid) {before after : List Char}
    (hbefore : ∀ b ∈ before, Text.isBlank b = true) (hafter : ∀ b ∈ after, Text.isBlank b = true)
    {t : Instant} (ht : (c.onDate d).instant? z.minutes = some t) :
    instant? (String.ofList (before ++ (d.chars ++ x :: (c.chars ++ z.chars)) ++ after)) = some t ∧
      Json.asDate? (.object [(dateKey, .string (String.ofList
        (d.chars ++ x :: (c.chars ++ z.chars))))]) = some t := by
  have hstrict := rfc3339?_zoned hd hyear hc hx hz
  rw [ht] at hstrict
  constructor
  · rw [instant?_written hyear hc x z.chars_nonblank hbefore hafter, hstrict]
    rfl
  · rw [Json.asDate?, if_pos rfl, String.toList_ofList, hstrict]

theorem instant?_date (hd : d.Valid) (hyear : 0 ≤ d.year ∧ d.year ≤ 9999) {before after : List Char}
    (hbefore : ∀ b ∈ before, Text.isBlank b = true) (hafter : ∀ b ∈ after, Text.isBlank b = true) :
    instant? (String.ofList (before ++ d.chars ++ after)) = Local.instant? ⟨d, 0, 0, 0, 0⟩ 0 := by
  obtain ⟨hstrict, hnaive, hmidnight⟩ := forms_of_date hd hyear
  have hhead := Text.head?_nonblank (date_nonblank hyear) (date_ne_nil d) []
  rw [List.append_nil] at hhead
  have hlast := Text.getLast?_nonblank (date_nonblank hyear) (date_ne_nil d) []
  rw [instant?_between hhead hlast hbefore hafter, hstrict, hnaive, hmidnight]
  rfl

theorem chars_midnight : "T00:00:00Z".toList = 'T' :: (Clock.midnight.chars ++ Zone.zulu.chars) := by
  decide +kernel

/-- All the forms of a timestamp tell one instant: the date and the time of day in UTC, to the
nanosecond. It makes no difference whether a `T` or a blank stands between them and whether they are
followed by `Z`, by an offset of nothing or by nothing, and an offset moves the instant by as much.
A date alone is its midnight. A date object with one of the forms that have an offset is the same
instant; only there blanks around the text are not allowed. -/
theorem written_forms_agree (hd : d.Valid) (hyear : 0 ≤ d.year ∧ d.year ≤ 9999) (hc : c.Valid)
    {before after : List Char} (hbefore : ∀ b ∈ before, Text.isBlank b = true)
    (hafter : ∀ b ∈ after, Text.isBlank b = true) :
    ∃ t : Instant, t.seconds = c.secondsOn d ∧ t.nanos = c.nanos ∧
      (∀ x, x = 'T' ∨ x = ' ' →
        instant? (String.ofList (before ++ (d.chars ++ x :: c.chars) ++ after)) = some t ∧
        ∀ z, z = Zone.zulu ∨ z = .ahead 0 0 →
          instant? (String.ofList (before ++ (d.chars ++ x :: (c.chars ++ z.chars)) ++ after)) =
            some t ∧
          Json.asDate? (.object [(dateKey, .string (String.ofList
            (d.chars ++ x :: (c.chars ++ z.chars))))]) = some t) ∧
      (∀ x, x = 'T' ∨ x = ' ' → ∀ z : Zone, z.Valid → ∃ u : Instant,
        u.seconds = t.seconds - z.minutes * 60 ∧ u.nanos = t.nanos ∧
        instant? (String.ofList (before ++ (d.chars ++ x :: (c.chars ++ z.chars)) ++ after)) =
          some u ∧
        Json.asDate? (.object [(dateKey, .string (String.ofList
          (d.chars ++ x :: (c.chars ++ z.chars))))]) = some u) ∧
      ∃ m : Instant, m.seconds = d.dayNumber * 86400 ∧ m.nanos = 0 ∧
        instant? (String.ofList (before ++ d.chars ++ after)) = some m ∧
        instant? (String.ofList (before ++ (d.chars ++ "T00:00:00Z".toList) ++ after)) = some m := by
  have hutc : -1440 < (0 : Int) ∧ (0 : Int) < 1440 := by decide
  obtain ⟨t, ht, hseconds, hnanos⟩ := instant?_onDate hd hyear hc hutc
  rw [Int.zero_mul, Int.sub_zero] at hseconds
  refine ⟨t, hseconds, hnanos, fun x hx => ⟨?_, fun z hz => ?_⟩, fun x hx z hz => ?_, ?_⟩
  · exact instant?_bare hd hyear hc hx hbefore hafter ht
  · have hvalid : z.Valid ∧ z.minutes = 0 := by
      rcases hz with rfl | rfl
      · exact ⟨trivial, rfl⟩
      · exact ⟨⟨by decide, by decide⟩, rfl⟩
    exact instant?_zoned hd hyear hc hx hvalid.1 hbefore hafter (hvalid.2 ▸ ht)
  · obtain ⟨u, hu, huseconds, hunanos⟩ := instant?_onDate hd hyear hc (Zone.minutes_bounds hz)
    exact ⟨u, by rw [huseconds, hseconds], by rw [hunanos, hnanos],
      instant?_zoned hd hyear hc hx hz hbefore hafter hu⟩
  · have hmidnight : Clock.midnight.Valid :=
      ⟨by decide, by decide, by decide, fun y hy => by cases hy⟩
    have hzero : Clock.midnight.onDate d = ⟨d, 0, 0, 0, 0⟩ := rfl
    obtain ⟨m, hm, hmseconds, hmnanos⟩ := instant?_onDate hd hyear hmidnight hutc
    refine ⟨m, ?_, hmnanos, ?_, ?_⟩
    · have hstart : Clock.midnight.secondsOn d = d.dayNumber * 86400 + 0 + 0 + 0 := rfl
      rw [hmseconds, hstart]
      omega
    · rw [instant?_date hd hyear hbefore hafter, ← hzero, hm]
    · rw [chars_midnight]
      exact (instant?_zoned hd hyear hmidnight (.inl rfl) (z := .zulu) trivial hbefore hafter hm).1

/-- The last second of 2016, which was a leap second, with more digits than are kept. -/
def leapClock : Clock := ⟨23, 59, 60, ['1', '2', '3', '4', '5', '6', '7', '8', '9', '1']⟩

def leapTexts : List String :=
  [" \u30002016-12-31 23:59:60.1234567891\u3000", " \u30002016-12-31T23:59:60.1234567891Z\u3000",
    " \u30002016-12-31T23:59:60.1234567891-23:59\u3000"]

theorem written_forms_agree_leapSecond :
    (⟨2016, 12, 31⟩ : Date).Valid ∧ leapClock.Valid ∧ (Zone.behind 23 59).Valid ∧
      (∀ b ∈ [' ', '\u3000'], Text.isBlank b = true) ∧
      ∃ t u : Instant, t.seconds = 1483228799 ∧ t.nanos = 1123456789 ∧
        u.seconds = t.seconds + 86340 ∧ u.nanos = t.nanos ∧
        leapTexts.map instant? = [some t, some t, some u] := by
  have hd : (⟨2016, 12, 31⟩ : Date).Valid := by decide
  have hc : leapClock.Valid := ⟨by decide, by decide, by decide, List.all_eq_true.1 rfl⟩
  have hz : (Zone.behind 23 59).Valid := ⟨by decide, by decide⟩
  have hbefore : ∀ b ∈ [' ', '\u3000'], Text.isBlank b = true := List.all_eq_true.1 rfl
  have hafter : ∀ b ∈ ['\u3000'], Text.isBlank b = true := List.all_eq_true.1 rfl
  obtain ⟨t, hseconds, hnanos, hutc, hlocal, -⟩ :=
    written_forms_agree hd (by decide) hc hbefore hafter
  obtain ⟨u, huseconds, hunanos, hu, -⟩ := hlocal 'T' (.inl rfl) _ hz
  let written (x : Char) (r : List Char) := String.ofList ([' ', '\u3000'] ++
    ((⟨2016, 12, 31⟩ : Date).chars ++ x :: (leapClock.chars ++ r)) ++ ['\u3000'])
  have htexts : leapTexts = [written ' ' [], written 'T' Zone.zulu.chars,
      written 'T' (Zone.behind 23 59).chars] := by
    decide +kernel
  refine ⟨hd, hc, hz, hbefore, t, u, by rw [hseconds]; decide, by rw [hnanos]; decide, ?_, hunanos, ?_⟩
  · rw [huseconds]
    rfl
  · have hbare := (hutc ' ' (.inr rfl)).1
    rw [← List.append_nil leapClock.chars] at hbare
    rw [htexts, List.map_cons, List.map_cons, List.map_singleton, hbare,
      ((hutc 'T' (.inl rfl)).2 .zulu (.inl rfl)).1, hu]

end Timestamp

end EventRollup
