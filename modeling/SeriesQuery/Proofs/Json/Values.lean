import SeriesQuery.Proofs.Json.Numbers
import SeriesQuery.Proofs.Json.Strings

/-!
# JSON values read back from their text

* `Json.Written j` : all texts and keys are whole, and all numbers are tokens of numbers;
* `Json.between_intercalate` : items between brackets are read back if each one is;
* `Json.valueWithin_append` : a value is read back wherever it can end, within any depth above the
  length of its text;
* `Json.read?_compact` : so it is as a whole text.
-/

namespace SeriesQuery

namespace Parser

variable {s : List Char}

theorem exactly_refused {c : Char} {w : List Char} (h : Stops [c].contains s) :
    exactly (c :: w) s = .refused s := by
  cases s with
  | nil => rfl
  | cons d rest =>
    have hd : c ≠ d := by
      have := Stops.contains_cons_iff.mp h
      simpa [eq_comm] using this
    rw [exactly, List.isPrefixOf_cons_cons, beq_false_of_ne hd]
    rfl

end Parser

namespace Json

open SeriesQuery.Parser

/-! ## Lists between brackets -/

section Brackets

variable {α β : Type} {opening closing : Char} {item : Parser α} {text : β → List Char} {f : β → α}

/-- No item begins with a blank or with what closes the list. -/
theorem between_intercalate {bs : List β} (hclosing : closing ∈ [']', '\x7d'])
    (hstart : ∀ b ∈ bs, ∀ rest, Stops (closing :: gapChars).contains (text b ++ rest))
    (hitem : ∀ b ∈ bs, ∀ rest, Closes rest → item (text b ++ rest) = .done (f b) rest)
    (rest : List Char) :
    between opening closing item
      (opening :: ([','].intercalate (bs.map text) ++ closing :: rest)) =
        .done (bs.map f) rest := by
  have hcloser : closing ∈ closers := List.mem_cons_of_mem ',' hclosing
  have hcloses : Closes (closing :: rest) := .cons hcloser rest
  rw [between, bind_of_done (char_cons opening _)]
  cases bs with
  | nil =>
    rw [List.map_nil, List.intercalate_nil, List.nil_append,
      bind_of_done (gap_of_stops (hcloses.stops (by decide))),
      bind_of_done (optional_of_done (char_cons closing rest))]
    rfl
  | cons b bs =>
    have hfirst : Stops (closing :: gapChars).contains
        ([','].intercalate ((b :: bs).map text) ++ closing :: rest) := by
      rw [List.map_cons, intercalate_cons, List.append_assoc]
      exact hstart b List.mem_cons_self _
    have hgap := gap_of_stops (hfirst.of_subset (List.subset_cons_self closing gapChars))
    have hopen : Stops [closing].contains
        ([','].intercalate ((b :: bs).map text) ++ closing :: rest) :=
      hfirst.of_subset (List.cons_subset_cons closing (List.nil_subset gapChars))
    have hcomma : Stops [','].contains (closing :: rest) := by
      refine Stops.contains_cons_iff.mpr ?_
      rintro h
      obtain rfl := List.mem_singleton.mp h
      exact absurd hclosing (by decide)
    have hread (c : β) (hc : c ∈ b :: bs) (rest : List Char) (hrest : Closes rest) :
        ∃ a, (do let a ← item; gap; return a : Parser α) (text c ++ rest) = .done a rest ∧
          id a = f c := by
      refine ⟨f c, ?_, rfl⟩
      rw [bind_of_done (hitem c hc rest hrest),
        bind_of_done (gap_of_stops (hrest.stops (by decide)))]
      rfl
    have hlist : ∃ as, nonEmptyListOf (do let a ← item; gap; return a) (char ',')
        ([','].intercalate ((b :: bs).map text) ++ closing :: rest) =
          .done as (closing :: rest) ∧ as.map id = (b :: bs).map f :=
      nonEmptyListOf_intercalate (List.cons_ne_nil b bs) (List.cons_ne_nil ',' []) hread
        (fun c _ rest => ⟨',', char_cons ',' _⟩) (fun rest => Closes.cons (by decide) rest) hcloses
        ⟨_, char_refused hcomma⟩
    obtain ⟨as, hread, has⟩ := hlist
    rw [List.map_id] at has
    rw [bind_of_done hgap, bind_of_done (optional_of_refused (char_refused hopen))]
    dsimp only
    rw [bind_of_done hread, bind_of_done (char_cons closing rest), has]
    rfl

end Brackets

/-! ## Values with a text of their own -/

/-- All strings stand for texts, and all numbers have tokens that are read back. -/
inductive Written : Json → Prop
  | null : Written .null
  | bool (b : Bool) : Written (.bool b)
  | number {token : List Char} (h : IsNumber token) : Written (.number token)
  | text (s : String) : Written (.text s)
  | array {items : List Json} (h : ∀ j ∈ items, Written j) : Written (.array items)
  | record {entries : List (String × Json)} (h : ∀ e ∈ entries, Written e.2) :
    Written (.record entries)

def entryChars (e : String × Json) : List Char := quoted (some e.1) ++ ':' :: e.2.compactChars

theorem compactItems_eq (items : List Json) :
    compactItems items = items.flatMap (fun j => [','] ++ j.compactChars) ++ [']'] := by
  induction items with
  | nil => rfl
  | cons j items ih =>
    rw [compactItems, ih, List.flatMap_cons, List.append_assoc]
    rfl

theorem compactChars_array (items : List Json) : (Json.array items).compactChars =
    '[' :: ([','].intercalate (items.map compactChars) ++ [']']) := by
  cases items with
  | nil => rfl
  | cons j items =>
    rw [compactChars, compactItems_eq, List.map_cons, intercalate_cons, List.flatMap_map,
      List.append_assoc]
    rfl

theorem compactEntries_eq (entries : List (String × Json)) :
    compactEntries (entries.map fun (k, v) => (some k, v)) =
      entries.flatMap (fun e => [','] ++ entryChars e) ++ ['\x7d'] := by
  induction entries with
  | nil => rfl
  | cons e entries ih =>
    rw [List.map_cons, compactEntries, ih, List.flatMap_cons, entryChars]
    simp

theorem compactChars_record (entries : List (String × Json)) : (record entries).compactChars =
    '\x7b' :: ([','].intercalate (entries.map entryChars) ++ ['\x7d']) := by
  cases entries with
  | nil => rfl
  | cons e entries =>
    rw [record, List.map_cons, compactChars, compactEntries_eq, List.map_cons, intercalate_cons,
      List.flatMap_map, entryChars]
    simp

def startsValue (c : Char) : Bool :=
  ['n', 't', 'f', '"', '[', '\x7b', '-'].contains c || c.isDigit

namespace Written

variable {j : Json}

theorem stops (h : Written j) {cs : List Char} (hcs : cs.any startsValue = false)
    (rest : List Char) : Stops cs.contains (j.compactChars ++ rest) := by
  have hmark {c : Char} (hc : startsValue c = true) (more : List Char) :
      Stops cs.contains (c :: more) :=
    Stops.contains_cons_iff.mpr fun hmem => Bool.eq_false_iff.mp (eq_false_of_any hcs hmem) hc
  cases h with
  | null => exact hmark (by decide) _
  | bool b => cases b <;> exact hmark (by decide) _
  | number h =>
    refine h.stops (List.any_eq_false.mpr fun c hc hsign => ?_) rest
    refine Bool.eq_false_iff.mp (eq_false_of_any hcs hc) ?_
    unfold isSignOrDigit at hsign
    unfold startsValue
    simp at hsign ⊢
    tauto
  | text s => exact hmark (by decide) _
  | array h =>
    rw [compactChars_array]
    exact hmark (by decide) _
  | record h =>
    rw [compactChars_record]
    exact hmark (by decide) _

end Written

theorem entry_append {value : Parser Json} {e : String × Json} {rest : List Char}
    (h : value (e.2.compactChars ++ rest) = .done e.2 rest) :
    entry value (entryChars e ++ rest) = .done (some e.1, e.2) rest := by
  have hquote (more : List Char) : Stops gapChars.contains (quoted (some e.1) ++ more) :=
    Stops.contains_cons_iff.mpr (by decide)
  have hcolon (more : List Char) : Stops gapChars.contains (':' :: more) :=
    Stops.contains_cons_iff.mpr (by decide)
  rw [entryChars, List.append_assoc, List.cons_append, entry,
    bind_of_done (gap_of_stops (hquote _)),
    bind_of_done (stringToken_quoted e.1 _), bind_of_done (gap_of_stops (hcolon _)),
    bind_of_done (char_cons ':' _), bind_of_done h]
  rfl

theorem stops_entryChars (e : String × Json) (rest : List Char) :
    Stops ('\x7d' :: gapChars).contains (entryChars e ++ rest) :=
  Stops.contains_cons_iff.mpr (by decide)

/-! ## Values -/

section Alternatives

variable {token s rest : List Char} {depth : Nat}

theorem word_refused {w : String} {c : Char} {cs : List Char} (hw : w.toList = c :: cs) (j : Json)
    (h : Stops [c].contains s) : word w j s = .refused s :=
  bind_of_refused (hw ▸ exactly_refused h)

theorem stringToken_refused (h : Stops ['"'].contains s) : stringToken s = .refused s := by
  unfold stringToken
  split
  · exact absurd List.mem_cons_self (Stops.contains_cons_iff.mp h)
  · rfl

/-- The words are tried first. -/
theorem valueWithin_of_stops (h : Stops ('n' :: 't' :: 'f' :: gapChars).contains s) :
    valueWithin (depth + 1) s = (Json.string <$> stringToken <|> Json.number <$> numberToken <|>
      Json.array <$> between '[' ']' (valueWithin depth) <|>
      Json.object <$> between '\x7b' '\x7d' (entry (valueWithin depth)) : Parser Json) s := by
  rw [valueWithin, bind_of_done (gap_of_stops (h.of_subset (by decide))),
    orElse_of_refused _ (word_refused (c := 'n') rfl .null (h.of_subset (by decide))),
    orElse_of_refused _ (word_refused (c := 't') rfl (.bool true) (h.of_subset (by decide))),
    orElse_of_refused _ (word_refused (c := 'f') rfl (.bool false) (h.of_subset (by decide)))]

theorem valueWithin_number (h : IsNumber token) (hrest : Closes rest) :
    valueWithin (depth + 1) (token ++ rest) = .done (.number token) rest := by
  have hstring := stringToken_refused (h.stops (by decide) rest)
  rw [valueWithin_of_stops (h.stops (by decide) rest),
    orElse_of_refused _ (map_of_refused _ hstring)]
  exact orElse_of_done _ (map_of_done _ (numberToken_append h hrest))

theorem valueWithin_text (s : String) :
    valueWithin (depth + 1) (quoted (some s) ++ rest) = .done (.text s) rest := by
  have hstops : Stops ('n' :: 't' :: 'f' :: gapChars).contains (quoted (some s) ++ rest) :=
    Stops.contains_cons_iff.mpr (by decide)
  rw [valueWithin_of_stops hstops]
  exact orElse_of_done _ (map_of_done _ (stringToken_quoted s rest))

theorem valueWithin_array {items : List Json}
    (h : between '[' ']' (valueWithin depth) ('[' :: s) = .done items rest) :
    valueWithin (depth + 1) ('[' :: s) = .done (.array items) rest := by
  have hstring : stringToken ('[' :: s) = .refused ('[' :: s) := rfl
  have hnumber : numberToken ('[' :: s) = .refused ('[' :: s) := rfl
  rw [valueWithin_of_stops (Stops.contains_cons_iff.mpr (by decide)),
    orElse_of_refused _ (map_of_refused _ hstring), orElse_of_refused _ (map_of_refused _ hnumber)]
  exact orElse_of_done _ (map_of_done _ h)

theorem valueWithin_object {entries : List (Option String × Json)}
    (h : between '\x7b' '\x7d' (entry (valueWithin depth)) ('\x7b' :: s) = .done entries rest) :
    valueWithin (depth + 1) ('\x7b' :: s) = .done (.object entries) rest := by
  have hstring : stringToken ('\x7b' :: s) = .refused ('\x7b' :: s) := rfl
  have hnumber : numberToken ('\x7b' :: s) = .refused ('\x7b' :: s) := rfl
  have harray : between '[' ']' (valueWithin depth) ('\x7b' :: s) = .refused ('\x7b' :: s) := rfl
  rw [valueWithin_of_stops (Stops.contains_cons_iff.mpr (by decide)),
    orElse_of_refused _ (map_of_refused _ hstring), orElse_of_refused _ (map_of_refused _ hnumber),
    orElse_of_refused _ (map_of_refused _ harray)]
  exact map_of_done _ h

end Alternatives

theorem valueWithin_append {j : Json} (h : Written j) {depth : Nat}
    (hdepth : j.compactChars.length < depth) {rest : List Char} (hrest : Closes rest) :
    valueWithin depth (j.compactChars ++ rest) = .done j rest := by
  -- What stands between brackets is shorter than the whole, so the depth left is enough for it.
  induction h generalizing depth rest with
  | null =>
    cases depth with
    | zero => contradiction
    | succ depth => rfl
  | bool b =>
    cases depth with
    | zero => contradiction
    | succ depth => cases b <;> rfl
  | number h =>
    cases depth with
    | zero => contradiction
    | succ depth => exact valueWithin_number h hrest
  | text s =>
    cases depth with
    | zero => contradiction
    | succ depth => exact valueWithin_text s
  | @array items h ih =>
    rw [compactChars_array] at hdepth ⊢
    cases depth with
    | zero => contradiction
    | succ depth =>
      have hitem : ∀ j ∈ items, ∀ rest, Closes rest →
          valueWithin depth (j.compactChars ++ rest) = .done (id j) rest := by
        intro j hj rest hrest
        have hlength :
            j.compactChars.length ≤ ([','].intercalate (items.map compactChars)).length :=
          length_le_intercalate (List.mem_map_of_mem hj)
        refine ih j hj ?_ hrest
        simp at hdepth
        omega
      rw [List.cons_append, List.append_assoc, List.singleton_append]
      have hread : between '[' ']' (valueWithin depth)
          ('[' :: ([','].intercalate (items.map compactChars) ++ ']' :: rest)) =
            .done (items.map id) rest :=
        between_intercalate (by decide) (fun j hj rest => (h j hj).stops (by decide) rest) hitem
          rest
      rw [List.map_id] at hread
      exact valueWithin_array hread
  | @record entries h ih =>
    rw [compactChars_record] at hdepth ⊢
    cases depth with
    | zero => contradiction
    | succ depth =>
      have hitem : ∀ e ∈ entries, ∀ rest, Closes rest →
          entry (valueWithin depth) (entryChars e ++ rest) = .done (some e.1, e.2) rest := by
        intro e he rest hrest
        have hlength :
            (entryChars e).length ≤ ([','].intercalate (entries.map entryChars)).length :=
          length_le_intercalate (List.mem_map_of_mem he)
        refine entry_append (ih e he ?_ hrest)
        simp [entryChars] at hlength hdepth
        omega
      rw [List.cons_append, List.append_assoc, List.singleton_append]
      exact valueWithin_object
        (between_intercalate (by decide) (fun e _ rest => stops_entryChars e rest) hitem rest)

/-- What is written on one line is read back. -/
theorem read?_compact {j : Json} (h : Written j) : read? j.compact = some j := by
  have hread := valueWithin_append h (Nat.lt_succ_self _) Closes.nil
  rw [List.append_nil] at hread
  unfold read? compact
  rw [String.toList_ofList]
  dsimp only
  rw [bind_of_done hread, bind_of_done (gap_of_stops Stops.nil)]
  rfl

end Json

end SeriesQuery
