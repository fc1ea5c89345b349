import SeriesQuery.Query.Scope

/-!
# From statements to trees

* `Scope.leaf` : what an event refers to;
* `Scope.bareLeaf` : an event with nothing but parentheses and brackets around it;
* `Scope.agg` : any expression;
* `Scope.nodes` : outside of groups an unnamed bare event gives its series as they are; all other
  expressions of a block are named aggregates of one group;
* `Query.ofText source missing` : a query from its text.
-/

namespace SeriesQuery

open Text (Located Position)

namespace Scope

variable (source : List Char)

/-! ## Leaves -/

def leaf (scope : Scope) (event : String) (labels : List LabelMatch) : Except QueryError Leaf := do
  let own ← Filter.ofLabels source labels
  return ⟨event, own.and scope.filter, { offset := scope.offset }⟩

/-- A result of moving what `e`, read at `start`, reads: there is none if offsets leave 64 bits. -/
def orOutOfRange (start : List Char) (e : Expr) : Option β → Except QueryError β
  | some b => .ok b
  | none => .error (.parse (Position.atRest source start) (.offsetOutOfRange e.text))

/-- The leaf of a bare event, none for any other expression. -/
def bareLeaf (scope : Scope) (start : List Char) : Expr → Except QueryError (Option Leaf)
  | .event name labels => some <$> leaf source scope name labels
  | .paren e => bareLeaf scope e.start e.node
  | .shift e bracket => do
    match ← bareLeaf scope e.start e.node with
    | none => return none
    | some leaf =>
      match bracket with
      | .offset ms =>
        let shift ← orOutOfRange source start (.shift e bracket) (leaf.shift.addOffset? ms)
        return some { leaf with shift }
      | .step ms => return some { leaf with shift := leaf.shift.setStep ms }
  | _ => return none

/-! ## Aggregates -/

/-- What a call asks for, by its name. -/
inductive CallKind where
  | plain (f : Reduction)
  | zip (f : Reduction)
  | collapse (f : Reduction)
deriving DecidableEq

/-- A reduction by its name, or by its name behind `zip` or `v`, in any letter case. -/
def CallKind.ofName? (name : String) : Option CallKind :=
  let lower := (Text.lower name).toList
  let behind (word : List Char) : Option Reduction :=
    if word.isPrefixOf lower then Reduction.ofName? (String.ofList (lower.drop word.length))
    else none
  match Reduction.ofName? name, behind ['z', 'i', 'p'], behind ['v'] with
  | some f, _, _ => some (.plain f)
  | none, some f, _ => some (.zip f)
  | none, none, some f => some (.collapse f)
  | none, none, none => none

def wrongArity (start : List Char) (name : String) (expected : Arity) (args : List (Located Expr)) :
    QueryError :=
  .wrongArity (Position.atRest source start) name expected args.length

mutual

def agg (scope : Scope) (start : List Char) : Expr → Except QueryError (Agg Float)
  | .event name labels => do return .scan (← leaf source scope name labels) scope.reduction
  | .number v => return .value v { offset := scope.offset }
  | .paren e => agg scope e.start e.node
  | .binary op lhs rhs => do
    let x ← agg scope lhs.start lhs.node
    let y ← agg scope rhs.start rhs.node
    return .op x y op
  | .shift e bracket => do
    let part ← agg scope e.start e.node
    match bracket with
    | .offset ms => orOutOfRange source start (.shift e bracket) (part.shiftOffset? ms)
    | .step ms => return part.shiftStep ms
  | .call name args =>
    match CallKind.ofName? name, args with
    | some (.plain f), [arg] => do
      match ← bareLeaf source scope arg.start arg.node with
      | some leaf => return .scan leaf f
      | none => .error (.parse (arg.position source) (.takesEvent name (Text.lower name)))
    | some (.plain _), args => .error (wrongArity source start name .exactlyOne args)
    | some (.zip _), [] => .error (wrongArity source start name .atLeastOne [])
    | some (.zip f), args => do return .zip (← aggs scope args) f {}
    | some (.collapse f), [arg] => do return .collapse (← agg scope arg.start arg.node) f
    | some (.collapse _), args => .error (wrongArity source start name .exactlyOne args)
    | none, _ => .error (.unknownOperator (Position.atRest source start) name)

def aggs (scope : Scope) : List (Located Expr) → Except QueryError (List (Agg Float))
  | [] => return []
  | e :: es => do
    let x ← agg scope e.start e.node
    let xs ← aggs scope es
    return x :: xs

end

/-! ## Blocks -/

/-- What a statement of a block becomes: a node, or an aggregate of the block's group. -/
inductive Item where
  | node (n : Node Float)
  | named (n : Named Float)

def Item.node? : Item → Option (Node Float)
  | .node n => some n
  | .named _ => none

def Item.named? : Item → Option (Named Float)
  | .named n => some n
  | .node _ => none

/-- An expression as an item of its block. -/
def item (scope : Scope) (name : Option String) (e : Located Expr) : Except QueryError Item := do
  let asNamed : Except QueryError Item := do
    return .named ⟨name.getD e.node.text, ← agg source scope e.start e.node⟩
  if scope.grouping.isNone && name.isNone then
    match ← bareLeaf source scope e.start e.node with
    | some leaf => return .node (.scan leaf)
    | none => asNamed
  else asNamed

/-- Without a grouping clause there is one group, and `missing` where the clause is silent. -/
def group (missing : String) (scope : Scope) (nodes : List (Named Float)) : Group Float :=
  { nodes
    labels := (scope.grouping.map (·.labels)).getD []
    missing := (scope.grouping.bind (·.missing)).getD missing
    reduction := scope.reduction }

/-- Nodes in order, the group of all named items where the first of them stands. -/
def withGroup (g : Group Float) : List Item → List (Node Float)
  | [] => []
  | .node n :: items => n :: withGroup g items
  | .named _ :: items => .group g :: items.filterMap Item.node?

def assemble (missing : String) (scope : Scope) (items : List Item) : List (Node Float) :=
  withGroup (scope.group missing (items.filterMap Item.named?)) items

variable (missing : String)

mutual

def nodeItem (scope : Scope) : Statement → Except QueryError (Option Item)
  | .clause _ => return none
  | .expr name e => some <$> item source scope name e
  | .block body => do
    let inner ← scope.inside source body
    return some (.node (.block (inner.assemble missing (← items inner body))))

def items (scope : Scope) : List (Located Statement) → Except QueryError (List Item)
  | [] => return []
  | s :: rest => do
    let first ← nodeItem scope s.node
    let more ← items scope rest
    return first.toList ++ more

end

/-- The nodes of a block in the scope `outer`. -/
def nodes (outer : Scope) (body : List (Located Statement)) :
    Except QueryError (List (Node Float)) := do
  let inner ← outer.inside source body
  return inner.assemble missing (← items source missing inner body)

end Scope

/-- The query that `source` says; `missing` stands for a missing label where the query does not say
otherwise. -/
def Query.ofText (source missing : String) : Except QueryError (Query Float) := do
  let statements ← Statement.ofText source
  return ⟨← Scope.nodes source.toList missing {} statements⟩

end SeriesQuery
