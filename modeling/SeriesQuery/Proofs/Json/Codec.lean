import SeriesQuery.Json.Codec
import SeriesQuery.Proofs.Json.Values

/-!
# Series read back from their JSON

* `Json.members?_record` : the members of a record by their names;
* `Json.toList?_map` : a list is decoded if each of its items is;
* `Json.ReadsBack v` : the written digits of a double are read as the same double;
* `Window.fits`, `Series.fits` : every integer is within 64 bits;
* `Series.isFinite`, `Results.isFinite` : no value is infinite or NaN;
* `Series.ofJson?_toJson`, `Results.ofJson?_toJson` : what is finite is read back as it was, and
  nothing else can be read.
-/

namespace SeriesQuery

namespace Json

/-! ## Records and lists -/

section Records

variable {names : List String} {entries : List (String × Json)}

theorem filter_eq_singleton {e : String × Json} (hkeys : (entries.map Prod.fst).Nodup)
    (he : e ∈ entries) : entries.filter (·.1 = e.1) = [e] := by
  induction entries with
  | nil => contradiction
  | cons x entries ih =>
    obtain ⟨hx, hkeys⟩ := List.nodup_cons.mp hkeys
    rcases List.mem_cons.mp he with rfl | he
    · have hnone : entries.filter (·.1 = e.1) = [] := by
        refine List.filter_eq_nil_iff.mpr fun y hy hkey => hx ?_
        exact of_decide_eq_true hkey ▸ List.mem_map_of_mem hy
      rw [List.filter_cons_of_pos (by simp), hnone]
    · have hne : x.1 ≠ e.1 := by
        intro heq
        exact hx (heq ▸ List.mem_map_of_mem he)
      rw [List.filter_cons_of_neg (by simpa using hne), ih hkeys he]

theorem member?_record {e : String × Json} (hkeys : (entries.map Prod.fst).Nodup)
    (he : e ∈ entries) :
    member? e.1 (entries.map fun (k, v) => (some k, v)) = some (some e.2) := by
  have hvalues : valuesAt e.1 (entries.map fun (k, v) => (some k, v)) = [e.2] := by
    rw [valuesAt, List.filter_map, List.map_map]
    have hfilter := filter_eq_singleton hkeys he
    simpa [Function.comp_def] using congrArg (List.map Prod.snd) hfilter
  rw [member?, hvalues]

theorem mapM_eq_some_map {α β : Type} {f : α → Option β} {g : α → β} {xs : List α}
    (h : ∀ x ∈ xs, f x = some (g x)) : xs.mapM f = some (xs.map g) := by
  induction xs with
  | nil => rfl
  | cons x xs ih =>
    rw [List.forall_mem_cons] at h
    rw [List.mapM_cons, h.1, ih h.2]
    rfl

theorem members?_record (hnames : entries.map Prod.fst = names) (hkeys : names.Nodup) :
    members? names (record entries) = some (entries.map (some ·.2)) := by
  subst hnames
  have hwhole : (entries.map fun (k, v) => (some k, v)).any (·.1.isNone) = false := by
    simp
  rw [record, members?, hwhole, if_neg Bool.false_ne_true, List.mapM_map]
  exact mapM_eq_some_map fun e he => member?_record hkeys he

end Records

/-- Items that are decoded to themselves, or not at all. -/
theorem toList?_map {β : Type} {encode : β → Json} {decode? : Json → Option β} {ok : β → Bool}
    {xs : List β} (h : ∀ x ∈ xs, decode? (encode x) = Option.guard ok x) :
    toList? decode? (.array (xs.map encode)) = Option.guard (·.all ok) xs := by
  change (xs.map encode).mapM decode? = _
  rw [List.mapM_map]
  induction xs with
  | nil => rfl
  | cons x xs ih =>
    rw [List.forall_mem_cons] at h
    rw [List.mapM_cons, Function.comp_apply, h.1, ih h.2]
    cases hx : ok x <;> cases hxs : xs.all ok <;> simp [Option.guard, hx, hxs]

/-! ## Numbers -/

theorem toInt?_int {n : Int} (h : Time.fits n = true) : toInt? (.int n) = some n := by
  obtain ⟨sign, ds, hrepr, -, -, hread⟩ := exists_digits_repr n
  -- Minus zero is refused, but zero is written without a sign.
  have hzero : (n = 0 && (sign ++ ds).head? = some '-') = false := by
    by_cases hn : n = 0
    · subst hn
      rw [← hrepr]
      decide
    · rw [decide_eq_false hn, Bool.false_and]
  have hrange : (-Int.pow 2 63 ≤ n && n < Int.pow 2 63) = true := by
    have hpow : Int.pow 2 63 = 9223372036854775808 := by decide
    unfold Time.fits Time.least Time.greatest at h
    rw [hpow]
    simp at h ⊢
    omega
  show toInt? (.number n.repr.toList) = some n
  rw [toInt?, hrepr, hread, Option.bind_eq_bind, Option.bind_some, hzero, if_neg Bool.false_ne_true,
    if_pos hrange]

/-- The digits of a double are read as the same double. Written is the shortest decimal that rounds
to the double, while reading goes through one rounded product, so that this is not true of all. -/
def ReadsBack (v : Float) : Prop := toFloat? (.float v) = some v

instance (v : Float) : Decidable (ReadsBack v) :=
  inferInstanceAs (Decidable (toFloat? (.float v) = some v))

theorem float_of_isFinite {v : Float} (h : v.isFinite = true) :
    Json.float v = .number (shortestText .data v).toList := by
  rw [Json.float, (isFinite_iff.mp h).1, (isFinite_iff.mp h).2]
  rfl

theorem float_of_not_isFinite {v : Float} (h : v.isFinite = false) : Json.float v = .null := by
  rw [Json.float, if_pos]
  by_contra hkind
  rw [Bool.not_eq_true, Bool.or_eq_false_iff, ← isFinite_iff, h] at hkind
  contradiction

theorem toFloat?_float {v : Float} (h : v.isFinite = true → ReadsBack v) :
    toFloat? (.float v) = Option.guard Float.isFinite v := by
  cases hfinite : v.isFinite with
  | true => rw [h hfinite, Option.guard, if_pos hfinite]
  | false => rw [float_of_not_isFinite hfinite, Option.guard, hfinite]; rfl

/-! ## What is written -/

@[simp] theorem written_text (s : String) : Written (.text s) := .text s

@[simp] theorem written_int (n : Int) : Written (.int n) := .number (isNumber_repr n)

@[simp] theorem written_float (v : Float) : Written (.float v) := by
  cases hfinite : v.isFinite with
  | true =>
    obtain ⟨hnan, hinf⟩ := isFinite_iff.mp hfinite
    rw [float_of_isFinite hfinite]
    exact .number (isNumber_shortestText hnan hinf)
  | false =>
    rw [float_of_not_isFinite hfinite]
    exact .null

theorem written_map {β : Type} {encode : β → Json} (h : ∀ x, Written (encode x)) (xs : List β) :
    Written (.array (xs.map encode)) := by
  refine .array fun j hj => ?_
  obtain ⟨x, -, rfl⟩ := List.mem_map.mp hj
  exact h x

end Json

open Json (Written ReadsBack members?_record)

/-! ## Windows, fields and points -/

/-- All its times and its step are within 64 bits. -/
def Window.fits (w : Window) : Bool := Time.fits w.start && Time.fits w.stop && Time.fits w.step

@[simp] theorem Window.written_encode (w : Window) : Written w.encode := .record (by simp)

theorem Window.decode?_encode {w : Window} (h : w.fits = true) : decode? w.encode = some w := by
  unfold Window.fits at h
  rw [Bool.and_eq_true, Bool.and_eq_true] at h
  obtain ⟨⟨hstart, hstop⟩, hstep⟩ := h
  rw [decode?, encode, members?_record (by rfl) (by decide)]
  simp [Json.required?, Json.toInt?_int hstart, Json.toInt?_int hstop, Json.toInt?_int hstep]

theorem Field.written_encode (f : Field) : Written f.encode := .record (by simp)

theorem Field.decode?_encode (f : Field) : decode? f.encode = some f := by
  rw [decode?, encode, members?_record (by rfl) (by decide)]
  rfl

@[simp] theorem Fields.written_encode (fs : Fields) : Written fs.encode :=
  Json.written_map Field.written_encode fs.toList

theorem Fields.decode?_encode (fs : Fields) : decode? fs.encode = some fs := by
  have hlist : Json.toList? Field.decode? (.array (fs.toList.map Field.encode)) =
      Option.guard (·.all fun _ => true) fs.toList :=
    Json.toList?_map fun f _ => Field.decode?_encode f
  rw [decode?, encode, hlist]
  simp [Option.guard]

/-! ## Points -/

theorem Point.written_encode (p : Point Float) : Written p.encode := .record (by simp)

theorem Point.decode?_encode {p : Point Float} (htime : Time.fits p.time = true)
    (hvalue : p.value.isFinite = true → ReadsBack p.value) :
    decode? p.encode = Option.guard (·.value.isFinite) p := by
  have hguard := congrFun (Option.guard_comp (p := (·.value.isFinite)) (f := mk p.time)) p.value
  rw [decode?, encode, members?_record (by rfl) (by decide)]
  simp only [List.map_cons, List.map_nil, Option.bind_eq_bind, Option.bind_some, Json.required?,
    Json.toInt?_int htime, Json.toFloat?_float hvalue]
  exact Option.map_eq_bind.symm.trans hguard.symm

/-- No value is infinite or NaN. -/
def Points.isFinite (ps : Points Float) : Bool := ps.toList.all (·.value.isFinite)

@[simp] theorem Points.written_encode (ps : Points Float) : Written ps.encode :=
  Json.written_map Point.written_encode ps.toList

theorem Points.decode?_encode {ps : Points Float} (htimes : ∀ t ∈ ps.times, Time.fits t = true)
    (hvalues : ∀ v ∈ ps.values, v.isFinite = true → ReadsBack v) :
    decode? ps.encode = Option.guard Points.isFinite ps := by
  have hlist : Json.toList? Point.decode? (.array (ps.toList.map Point.encode)) =
      Option.guard (·.all (·.value.isFinite)) ps.toList :=
    Json.toList?_map fun p hp =>
      Point.decode?_encode (htimes _ (List.mem_map_of_mem hp)) (hvalues _ (List.mem_map_of_mem hp))
  have hguard := congrFun (Option.guard_comp (p := Points.isFinite) (f := mk)) ps.toList
  rw [decode?, encode, hlist]
  exact hguard.symm

/-! ## Series -/

namespace Series

/-- All its times are within 64 bits. -/
def fits {α : Type} (s : Series α) : Bool := s.window.fits && s.points.times.all Time.fits

def isFinite (s : Series Float) : Bool := s.points.isFinite

/-- Those of its values that have digits are read back from them. -/
def ReadsBack (s : Series Float) : Prop :=
  ∀ v ∈ s.points.values, v.isFinite = true → Json.ReadsBack v

instance (s : Series Float) : Decidable s.ReadsBack :=
  inferInstanceAs (Decidable (∀ v ∈ s.points.values, v.isFinite = true → Json.ReadsBack v))

def toJson (s : Series Float) : String := s.encode.compact

def ofJson? (text : String) : Option (Series Float) := (Json.read? text).bind decode?

theorem written_encode (s : Series Float) : Written s.encode := .record (by simp)

theorem decode?_encode {s : Series Float} (hfits : s.fits = true) (hread : s.ReadsBack) :
    decode? s.encode = Option.guard isFinite s := by
  unfold fits at hfits
  obtain ⟨hwindow, htimes⟩ := (Bool.and_eq_true _ _).mp hfits
  have hpoints := Points.decode?_encode (List.all_eq_true.mp htimes) hread
  have hguard := congrFun (Option.guard_comp (p := isFinite) (f := ({ s with points := · })))
    s.points
  rw [decode?, encode, members?_record (by rfl) (by decide)]
  simp only [List.map_cons, List.map_nil, Option.bind_eq_bind, Option.bind_some, Json.required?,
    Json.text, Json.toText?, Fields.decode?_encode, Window.decode?_encode hwindow, hpoints]
  exact Option.map_eq_bind.symm.trans hguard.symm

theorem ofJson?_toJson {s : Series Float} (hfits : s.fits = true) (hread : s.ReadsBack) :
    ofJson? s.toJson = Option.guard isFinite s := by
  rw [ofJson?, toJson, Json.read?_compact s.written_encode, Option.bind_some,
    decode?_encode hfits hread]

end Series

/-! ## Results -/

namespace Results

def isFinite (rs : Results Float) : Bool := rs.toList.all Series.isFinite

def toJson (rs : Results Float) : String := rs.encode.compact

def ofJson? (text : String) : Option (Results Float) := (Json.read? text).bind decode?

theorem written_encode (rs : Results Float) : Written rs.encode :=
  Json.written_map Series.written_encode rs.toList

theorem decode?_encode {rs : Results Float}
    (h : ∀ s ∈ rs.toList, s.fits = true ∧ s.ReadsBack) :
    decode? rs.encode = Option.guard isFinite rs := by
  have hlist : Json.toList? Series.decode? (.array (rs.toList.map Series.encode)) =
      Option.guard (·.all Series.isFinite) rs.toList :=
    Json.toList?_map fun s hs => Series.decode?_encode (h s hs).1 (h s hs).2
  have hguard := congrFun (Option.guard_comp (p := isFinite) (f := mk)) rs.toList
  rw [decode?, encode, hlist]
  exact hguard.symm

theorem ofJson?_toJson {rs : Results Float} (h : ∀ s ∈ rs.toList, s.fits = true ∧ s.ReadsBack) :
    ofJson? rs.toJson = Option.guard isFinite rs := by
  rw [ofJson?, toJson, Json.read?_compact rs.written_encode, Option.bind_some, decode?_encode h]

end Results

end SeriesQuery
