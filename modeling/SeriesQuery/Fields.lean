import SeriesQuery.Index

/-!
# Fields

The fields of a series are its labels with their values, in order; with the event they say which
series it is.

* `Fields.get?` : the first value of a label;
* `Fields.sort` : by label, equal labels in the order they stood in;
* `Fields.project` : the grouping key, exactly the given labels with a stand-in for missing ones;
* `Fields.admits` : the walk through sorted fields that checks them against allowed values;
* `Fields.text` : as tables show them.
-/

namespace SeriesQuery

structure Field where
  label : String
  value : String
deriving DecidableEq, Repr

structure Fields where
  toList : List Field
deriving DecidableEq, Repr

namespace Fields

def empty : Fields := ⟨[]⟩

def ofPairs (pairs : List (String × String)) : Fields := ⟨pairs.map fun (l, v) => ⟨l, v⟩⟩

def push (fs : Fields) (label value : String) : Fields := ⟨fs.toList ++ [⟨label, value⟩]⟩

def size (fs : Fields) : Nat := fs.toList.length

def get? (fs : Fields) (label : String) : Option String :=
  (fs.toList.find? (·.label = label)).map (·.value)

def sort (fs : Fields) : Fields := ⟨fs.toList.mergeSort fun f g => f.label ≤ g.label⟩

/-- Exactly `labels`, in that order; a label that is missing has the value `missing`. -/
def project (fs : Fields) (missing : String) (labels : List String) : Fields :=
  ⟨labels.map fun label => ⟨label, (fs.get? label).getD missing⟩⟩

/-- Both lists ascend by label. Fields before the label at hand are passed over for good; the field
that answers a label is kept, since the next label is larger anyway. -/
def admitsFrom : List Field → List (String × List String) → Bool
  | _, [] => true
  | fields, (label, allowed) :: more =>
    if allowed.isEmpty then admitsFrom fields more
    else
      let rest := fields.dropWhile (·.label < label)
      match rest.head? with
      | some f => f.label = label && allowed.contains f.value && admitsFrom rest more
      | none => false

/-- Every label with a non-empty list of allowed values is present with one of them. -/
def admits (fs : Fields) (allowed : Index (List String)) : Bool :=
  admitsFrom fs.toList allowed.toList

def text (fs : Fields) : String :=
  "\x7b" ++ ", ".intercalate (fs.toList.map fun f => f.label ++ ": " ++ f.value) ++ "\x7d"

end Fields

end SeriesQuery
