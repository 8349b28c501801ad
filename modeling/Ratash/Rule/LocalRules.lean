import Mathlib.Data.List.Infix
import Ratash.Domain

/-!
An ordered list of rule strings with a revision, or nothing at all before the first profile has
been added. The parser of rule strings is a parameter: it only says which strings are rules, and
what a listing shows of them.
-/

namespace Ratash

def ruleStringMaxBytes : Nat := 16 * 1024

structure LocalRuleSet where
  revision : LocalRuleSetRevision
  rules : Option (List String)
deriving DecidableEq

inductive RulePlacement where
  | prepend
  | append
  | before (anchor : String)
  | after (anchor : String)
deriving DecidableEq

inductive RuleSetError (E : Type) where
  | rulesUninitialized
  | revisionExhausted
  | ruleNotFound
  | ruleAmbiguous (matchingIndexes : List Nat)
  | ruleAlreadyExists (matchingIndexes : List Nat)
  | invalidRule (error : E)
deriving DecidableEq

structure RuleListEntry (P : Type) where
  index : Nat
  rule : String
  parsed : P
deriving DecidableEq

structure RuleListPage (P : Type) where
  initialized : Bool
  total : Nat
  offset : Nat
  entries : List (RuleListEntry P)
deriving DecidableEq

def matchingRuleIndexes (rules : List String) (target : String) : List Nat :=
  (rules.zipIdx.filter fun entry => entry.1 = target).map (·.2)

def exactRuleIndex {E : Type} (rules : List String) (target : String) :
    Except (RuleSetError E) Nat :=
  match matchingRuleIndexes rules target with
  | [] => .error .ruleNotFound
  | [index] => .ok index
  | matchingIndexes => .error (.ruleAmbiguous matchingIndexes)

/-- Where a rule is to go. -/
def RulePlacement.index {E : Type} (placement : RulePlacement) (rules : List String) :
    Except (RuleSetError E) Nat :=
  match placement with
  | .prepend => .ok 0
  | .append => .ok rules.length
  | .before anchor => exactRuleIndex rules anchor
  | .after anchor => (exactRuleIndex rules anchor).map (· + 1)

def nextRevision {E : Type} (revision : LocalRuleSetRevision) :
    Except (RuleSetError E) LocalRuleSetRevision :=
  match checkedSucc revision with
  | none => .error .revisionExhausted
  | some next => .ok next

namespace LocalRuleSet

variable {E P : Type} (parseRule : String → Except E P)

def uninitialized : LocalRuleSet := ⟨0, none⟩

def initializedAt (rules : List String) (revision : LocalRuleSetRevision) : LocalRuleSet :=
  ⟨revision, some rules⟩

def initialized (rules : List String) : LocalRuleSet := initializedAt rules 1

def entriesFrom (index : Nat) : List String → Except E (List (RuleListEntry P))
  | [] => .ok []
  | rule :: rest => do
    let parsed ← parseRule rule
    let entries ← entriesFrom (index + 1) rest
    return ⟨index, rule, parsed⟩ :: entries

/-- `list_page`; without a limit it is `list`. -/
def listPage (ruleSet : LocalRuleSet) (offset : Nat) (limit : Option Nat) :
    Except E (RuleListPage P) :=
  match ruleSet.rules with
  | none => .ok ⟨false, 0, offset, []⟩
  | some rules => do
    let page := match limit with
      | none => rules.drop offset
      | some limit => (rules.drop offset).take limit
    let entries ← entriesFrom parseRule offset page
    return ⟨true, rules.length, offset, entries⟩

def list (ruleSet : LocalRuleSet) : Except E (RuleListPage P) := ruleSet.listPage parseRule 0 none

def add (rule : String) (placement : RulePlacement) (ruleSet : LocalRuleSet) :
    Except (RuleSetError E) (Nat × LocalRuleSet) :=
  match ruleSet.rules with
  | none => .error .rulesUninitialized
  | some rules => do
    let _ ← (parseRule rule).mapError .invalidRule
    let index ← placement.index rules
    let matchingIndexes := matchingRuleIndexes rules rule
    if matchingIndexes ≠ [] then .error (.ruleAlreadyExists matchingIndexes)
    let revision ← nextRevision ruleSet.revision
    return (index, initializedAt (rules.insertIdx index rule) revision)

def replace (oldRule newRule : String) (ruleSet : LocalRuleSet) :
    Except (RuleSetError E) (Nat × LocalRuleSet) :=
  match ruleSet.rules with
  | none => .error .rulesUninitialized
  | some rules => do
    let _ ← (parseRule newRule).mapError .invalidRule
    let index ← exactRuleIndex rules oldRule
    let matchingIndexes := (matchingRuleIndexes rules newRule).filter (· ≠ index)
    if matchingIndexes ≠ [] then .error (.ruleAlreadyExists matchingIndexes)
    if rules[index]? = some newRule then return (index, ruleSet)
    let revision ← nextRevision ruleSet.revision
    return (index, initializedAt (rules.set index newRule) revision)

def remove (rule : String) (ruleSet : LocalRuleSet) :
    Except (RuleSetError E) (String × LocalRuleSet) :=
  match ruleSet.rules with
  | none => .error .rulesUninitialized
  | some rules => do
    let index ← exactRuleIndex rules rule
    let revision ← nextRevision ruleSet.revision
    return (rules.getD index "", initializedAt (rules.eraseIdx index) revision)

end LocalRuleSet

end Ratash
