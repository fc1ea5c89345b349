import SeriesQuery.Query.Grammar
import SeriesQuery.Query.Tree

/-!
# What holds in a block

* `Filter.ofLabels` : conditions as written; a label that is repeated asks for all of them;
* `Grouping` : a grouping clause with its reduction resolved;
* `Scope` : the clauses in effect;
* `Scope.inside outer body` : clauses of a block hold for the whole block and for the blocks in it,
  wherever they stand, and each kind replaces what the enclosing blocks say.

`source` is the text of the whole query, which errors give places of.
-/

namespace SeriesQuery

open Text (Located)

variable (source : List Char)

/-! ## Filters -/

def Matcher.ofPredicate (p : Located Predicate) : Except QueryError Matcher :=
  match p.node with
  | .value s => .ok (.equals s)
  | .call name arg =>
    match Text.lower name with
    | "prefix" => .ok (.startsWith arg)
    | "suffix" => .ok (.endsWith arg)
    | "regexp" | "regex" =>
      match Regexp.ofText? arg with
      | some r => .ok (.regexp r)
      | none => .error (.invalidRegexp (p.position source) arg)
    | _ => .error (.unknownOperator (p.position source) name)

/-- One alternative stands for itself, several for any of them. -/
def Matcher.anyOf : List Matcher → Matcher
  | [m] => m
  | ms => .any ms

def Filter.ofLabels (labels : List LabelMatch) : Except QueryError Filter :=
  labels.foldlM (fun f m => do
    let ms ← m.predicates.mapM (Matcher.ofPredicate source)
    return f.and (Filter.empty.withLabel m.label (.anyOf ms))) .empty

/-! ## Groupings -/

/-- A grouping clause with its reduction resolved. -/
structure Grouping where
  labels : List String
  reduction : Reduction
  missing : Option String
deriving DecidableEq

def Grouping.ofArgs (args : GroupArgs) : Except QueryError Grouping := do
  let reduction ← match args.reduction with
    | none => .ok .sum
    | some name =>
      match Reduction.ofName? name.node with
      | some f => .ok f
      | none => .error (.unknownOperator (name.position source) name.node)
  return ⟨args.labels, reduction, args.missing⟩

/-! ## Scopes -/

structure Scope where
  filter : Filter := .empty
  grouping : Option Grouping := none
  offset : Int := 0
deriving DecidableEq

namespace Scope

/-- How bare events are reduced inside of expressions. -/
def reduction (scope : Scope) : Reduction := (scope.grouping.map (·.reduction)).getD .sum

/-- Filters of one block add up, and of the other clauses the last one counts. `own` is the filter
of the block so far. -/
def withClauses (scope : Scope) (own : Option Filter) :
    List (Located Statement) → Except QueryError Scope
  | [] => .ok { scope with filter := own.getD scope.filter }
  | ⟨_, .clause (.filter labels)⟩ :: rest => do
    let f ← Filter.ofLabels source labels
    withClauses scope (some (match own with | some g => g.and f | none => f)) rest
  | ⟨_, .clause (.group args)⟩ :: rest => do
    let g ← Grouping.ofArgs source args
    withClauses { scope with grouping := some g } own rest
  | ⟨_, .clause (.offset ms)⟩ :: rest => withClauses { scope with offset := ms } own rest
  | _ :: rest => withClauses scope own rest

/-- The scope of a block with these statements. -/
def inside (outer : Scope) (body : List (Located Statement)) : Except QueryError Scope :=
  withClauses source outer none body

end Scope

end SeriesQuery
