/-!
# Maps from texts, in order

* `Index α` : finitely many texts with a value each, kept in ascending order of the texts, so that
  two indexes with the same entries are equal;
* `Index.find?`, `Index.insert`, `Index.update` : one entry;
* `Index.ofList` : of several entries for one text the last one stays.
-/

namespace SeriesQuery

/-- Texts ascend by code point, which is also the order of their bytes. -/
structure Index (α : Type) where
  toList : List (String × α)
  ascending : toList.Pairwise (·.1 < ·.1) := by simp

namespace Index

variable {α β : Type}

instance [DecidableEq α] : DecidableEq (Index α) := fun a b =>
  decidable_of_iff (a.toList = b.toList) <| by cases a; cases b; simp

def empty : Index α := ⟨[], .nil⟩

def size (m : Index α) : Nat := m.toList.length

def isEmpty (m : Index α) : Bool := m.toList.isEmpty

def keys (m : Index α) : List String := m.toList.map (·.1)

def find? (m : Index α) (key : String) : Option α :=
  (m.toList.find? (·.1 = key)).map (·.2)

/-! ## One entry changed -/

/-- `entries` with the value at `key` computed from the one it had. -/
def place (key : String) (f : Option α → α) : List (String × α) → List (String × α)
  | [] => [(key, f none)]
  | (k, v) :: rest =>
    if key < k then (key, f none) :: (k, v) :: rest
    else if key = k then (k, f (some v)) :: rest
    else (k, v) :: place key f rest

theorem key_of_mem_place {key : String} {f : Option α → α} {entries : List (String × α)}
    {e : String × α} (h : e ∈ place key f entries) : e.1 = key ∨ e ∈ entries := by
  induction entries with
  | nil => simp_all [place]
  | cons d rest ih =>
    obtain ⟨k, v⟩ := d
    unfold place at h
    split at h
    · grind
    · split at h <;> grind

theorem pairwise_place (key : String) (f : Option α → α) {entries : List (String × α)}
    (h : entries.Pairwise (·.1 < ·.1)) : (place key f entries).Pairwise (·.1 < ·.1) := by
  induction entries with
  | nil => simp [place]
  | cons d rest ih =>
    obtain ⟨k, v⟩ := d
    obtain ⟨hk, hr⟩ := List.pairwise_cons.1 h
    unfold place
    split
    · rename_i hlt
      refine List.pairwise_cons.2 ⟨fun e he => ?_, h⟩
      rcases List.mem_cons.1 he with rfl | he
      · exact hlt
      · exact String.lt_trans hlt (hk e he)
    · rename_i hge
      split
      · exact List.pairwise_cons.2 ⟨hk, hr⟩
      · rename_i hne
        refine List.pairwise_cons.2 ⟨fun e he => ?_, ih hr⟩
        rcases key_of_mem_place he with rfl | he
        · exact Std.lt_of_le_of_ne (String.not_lt.1 hge) (Ne.symm hne)
        · exact hk e he

/-- The value at `key` becomes `f` of the one it had. -/
def update (m : Index α) (key : String) (f : Option α → α) : Index α :=
  ⟨place key f m.toList, pairwise_place key f m.ascending⟩

def insert (m : Index α) (key : String) (v : α) : Index α := m.update key fun _ => v

def ofList (entries : List (String × α)) : Index α :=
  entries.foldl (fun m e => m.insert e.1 e.2) empty

def map (f : α → β) (m : Index α) : Index β :=
  ⟨m.toList.map fun e => (e.1, f e.2), by
    simpa [List.pairwise_map] using m.ascending⟩

end Index

end SeriesQuery
