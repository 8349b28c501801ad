import Mathlib.Data.List.Nodup
import Ratash.Rule.LocalRules
import Ratash.Rule.Parse

/-!
The three methods that change the rule set in place, step by step as they are written, and what
every sequence of them keeps.
-/

namespace Ratash

/-- A method on a rule set that it may change, also if it fails. -/
abbrev RuleEdit (α : Type) := ExceptT (RuleSetError RuleParseError) (StateM LocalRuleSet) α

namespace RuleEdit

def ofExcept (x : Except (RuleSetError RuleParseError) α) : RuleEdit α := ExceptT.mk (pure x)

def add (rule : String) (placement : RulePlacement) : RuleEdit Nat := do
  let self ← get
  match self.rules with
  | none => throw .rulesUninitialized
  | some rules =>
    let _ ← ofExcept ((parseRule rule).mapError .invalidRule)
    let index ← ofExcept (placement.index rules)
    let matchingIndexes := matchingRuleIndexes rules rule
    if matchingIndexes ≠ [] then throw (.ruleAlreadyExists matchingIndexes)
    else
      let revision ← ofExcept (nextRevision self.revision)
      modify fun self => { self with rules := some (rules.insertIdx index rule) }
      modify fun self => { self with revision }
      return index

def replace (oldRule newRule : String) : RuleEdit Nat := do
  let self ← get
  match self.rules with
  | none => throw .rulesUninitialized
  | some rules =>
    let _ ← ofExcept ((parseRule newRule).mapError .invalidRule)
    let index ← ofExcept (exactRuleIndex rules oldRule)
    let matchingIndexes := (matchingRuleIndexes rules newRule).filter (· ≠ index)
    if matchingIndexes ≠ [] then throw (.ruleAlreadyExists matchingIndexes)
    else if rules[index]? = some newRule then return index
    else
      let revision ← ofExcept (nextRevision self.revision)
      modify fun self => { self with rules := some (rules.set index newRule) }
      modify fun self => { self with revision }
      return index

def remove (rule : String) : RuleEdit String := do
  let self ← get
  match self.rules with
  | none => throw .rulesUninitialized
  | some rules =>
    let index ← ofExcept (exactRuleIndex rules rule)
    let revision ← ofExcept (nextRevision self.revision)
    let removed := rules.getD index ""
    modify fun self => { self with rules := some (rules.eraseIdx index) }
    modify fun self => { self with revision }
    return removed

def outcome (edit : RuleEdit α) (ruleSet : LocalRuleSet) :
    Except (RuleSetError RuleParseError) α × LocalRuleSet := edit.run ruleSet

def whole (ruleSet : LocalRuleSet) :
    Except (RuleSetError RuleParseError) (α × LocalRuleSet) →
      Except (RuleSetError RuleParseError) α × LocalRuleSet
  | .ok (answer, ruleSet) => (.ok answer, ruleSet)
  | .error e => (.error e, ruleSet)

theorem outcome_get (f : LocalRuleSet → RuleEdit α) (ruleSet : LocalRuleSet) :
    outcome (get >>= f) ruleSet = outcome (f ruleSet) ruleSet := rfl

theorem outcome_map (f : α → β) (edit : RuleEdit α) (ruleSet : LocalRuleSet) :
    outcome (f <$> edit) ruleSet = ((outcome edit ruleSet).1.map f, (outcome edit ruleSet).2) := by
  have hrun : (f <$> edit).run = (Except.map f <$> edit.run : StateM LocalRuleSet _) :=
    ExceptT.run_map f edit
  rw [outcome, hrun]
  rfl

theorem outcome_ofExcept (x : Except (RuleSetError RuleParseError) β) (f : β → RuleEdit α)
    (g : β → Except (RuleSetError RuleParseError) (α × LocalRuleSet)) (ruleSet : LocalRuleSet)
    (h : ∀ b, x = .ok b → outcome (f b) ruleSet = whole ruleSet (g b)) :
    outcome (ofExcept x >>= f) ruleSet = whole ruleSet (x >>= g) := by
  cases x with
  | error e => rfl
  | ok b => exact h b rfl

theorem outcome_add (rule : String) (placement : RulePlacement) (ruleSet : LocalRuleSet) :
    outcome (add rule placement) ruleSet =
      whole ruleSet (LocalRuleSet.add parseRule rule placement ruleSet) := by
  obtain ⟨revision, rules⟩ := ruleSet
  rw [add, outcome_get, LocalRuleSet.add]
  cases rules with
  | none => rfl
  | some rules =>
    apply outcome_ofExcept
    intro _ _
    apply outcome_ofExcept
    intro index _
    by_cases hexists : matchingRuleIndexes rules rule = []
    · simp only [hexists, ne_eq, not_true_eq_false, if_false]
      exact outcome_ofExcept _ _ _ _ fun _ _ => rfl
    · simp only [hexists, ne_eq, not_false_eq_true, if_true]
      rfl

theorem outcome_replace (oldRule newRule : String) (ruleSet : LocalRuleSet) :
    outcome (replace oldRule newRule) ruleSet =
      whole ruleSet (LocalRuleSet.replace parseRule oldRule newRule ruleSet) := by
  obtain ⟨revision, rules⟩ := ruleSet
  rw [replace, outcome_get, LocalRuleSet.replace]
  cases rules with
  | none => rfl
  | some rules =>
    apply outcome_ofExcept
    intro _ _
    apply outcome_ofExcept
    intro index _
    by_cases hexists : (matchingRuleIndexes rules newRule).filter (· ≠ index) = []
    · by_cases hsame : rules[index]? = some newRule
      · simp only [hexists, hsame, ne_eq, not_true_eq_false, if_false, if_true]
        rfl
      · simp only [hexists, hsame, ne_eq, not_true_eq_false, if_false]
        exact outcome_ofExcept _ _ _ _ fun _ _ => rfl
    · simp only [hexists, ne_eq, not_false_eq_true, if_true]
      rfl

theorem outcome_remove (rule : String) (ruleSet : LocalRuleSet) :
    outcome (remove rule) ruleSet = whole ruleSet (LocalRuleSet.remove rule ruleSet) := by
  obtain ⟨revision, rules⟩ := ruleSet
  rw [remove, outcome_get, LocalRuleSet.remove]
  cases rules with
  | none => rfl
  | some rules =>
    apply outcome_ofExcept
    intro index _
    exact outcome_ofExcept _ _ _ _ fun _ _ => rfl

end RuleEdit

theorem mem_matchingRuleIndexes {rules : List String} :
    index ∈ matchingRuleIndexes rules target ↔ rules[index]? = some target := by
  simp only [matchingRuleIndexes, List.mem_map, List.mem_filter, decide_eq_true_eq,
    List.mem_zipIdx_iff_getElem?]
  constructor
  · rintro ⟨⟨rule, _⟩, ⟨hrule, rfl⟩, rfl⟩
    exact hrule
  · exact fun h => ⟨(target, index), ⟨h, rfl⟩, rfl⟩

theorem exactRuleIndex_ok {rules : List String}
    (h : (exactRuleIndex rules target : Except (RuleSetError E) Nat) = .ok index) :
    rules[index]? = some target := by
  unfold exactRuleIndex at h
  split at h
  · cases h
  · rename_i found hfound
    cases h
    exact mem_matchingRuleIndexes.1 (hfound ▸ List.mem_singleton_self _)
  · cases h

theorem not_mem_of_matchingRuleIndexes (h : matchingRuleIndexes rules rule = []) :
    rule ∉ rules := by
  intro hmem
  obtain ⟨index, hindex⟩ := List.mem_iff_getElem?.1 hmem
  have := mem_matchingRuleIndexes.2 hindex
  rw [h] at this
  cases this

theorem eq_around {rules : List String} (h : rules[index]? = some rule) :
    ∃ before after, rules = before ++ rule :: after ∧ before.length = index := by
  obtain ⟨hlt, rfl⟩ := List.getElem?_eq_some_iff.1 h
  refine ⟨rules.take index, rules.drop (index + 1), ?_, List.length_take_of_le hlt.le⟩
  rw [← List.drop_eq_getElem_cons hlt, List.take_append_drop]

theorem insertIdx_around (before after : List String) (rule : String) :
    (before ++ after).insertIdx before.length rule = before ++ rule :: after := by
  induction before with
  | nil => rfl
  | cons first before ih => exact congrArg (first :: ·) ih

/-- A rule between these two parts of the list is where it was asked for. -/
def RulePlacement.At (before after : List String) : RulePlacement → Prop
  | .prepend => before = []
  | .append => after = []
  | .before anchor => after.head? = some anchor
  | .after anchor => before.getLast? = some anchor

theorem RulePlacement.index_ok {placement : RulePlacement} {place : Nat}
    (h : (placement.index rules : Except (RuleSetError E) Nat) = .ok place) :
    ∃ before after, rules = before ++ after ∧ before.length = place ∧
      placement.At before after := by
  cases placement with
  | prepend =>
    cases h
    exact ⟨[], rules, rfl, rfl, rfl⟩
  | append =>
    cases h
    exact ⟨rules, [], (List.append_nil _).symm, rfl, rfl⟩
  | before anchor =>
    obtain ⟨before, after, rfl, rfl⟩ := eq_around (exactRuleIndex_ok h)
    exact ⟨before, anchor :: after, rfl, rfl, rfl⟩
  | after anchor =>
    unfold index at h
    dsimp only at h
    cases hexact : (exactRuleIndex rules anchor : Except (RuleSetError E) Nat) with
    | error e =>
      rw [hexact] at h
      cases h
    | ok found =>
      rw [hexact] at h
      cases h
      obtain ⟨before, after, rfl, rfl⟩ := eq_around (exactRuleIndex_ok hexact)
      refine ⟨before ++ [anchor], after, ?_, List.length_append, ?_⟩
      · rw [List.append_assoc, List.singleton_append]
      · exact List.getLast?_concat

theorem nextRevision_ok (h : (nextRevision revision : Except (RuleSetError E) _) = .ok next) :
    next.toNat = revision.toNat + 1 := by
  unfold nextRevision at h
  split at h
  · cases h
  · rename_i found hfound
    cases h
    exact checkedSucc_eq_some hfound

inductive RuleOperation where
  | add (rule : String) (placement : RulePlacement)
  | replace (oldRule newRule : String)
  | remove (rule : String)
deriving DecidableEq

inductive RuleAnswer where
  | index (index : Nat)
  | removed (rule : String)
deriving DecidableEq

namespace RuleOperation

def edit : RuleOperation → RuleEdit RuleAnswer
  | .add rule placement => .index <$> RuleEdit.add rule placement
  | .replace oldRule newRule => .index <$> RuleEdit.replace oldRule newRule
  | .remove rule => .removed <$> RuleEdit.remove rule

def perform (operation : RuleOperation) (ruleSet : LocalRuleSet) :
    Except (RuleSetError RuleParseError) RuleAnswer × LocalRuleSet :=
  operation.edit.outcome ruleSet

def run : LocalRuleSet → List RuleOperation → LocalRuleSet
  | ruleSet, [] => ruleSet
  | ruleSet, operation :: rest => run (operation.perform ruleSet).2 rest

/-- What a successful operation makes of the list: one rule is put in, exchanged or taken out, and
the rules around it stay as they are. -/
def Changes (current next : List String) : RuleOperation → RuleAnswer → Prop
  | .add rule placement, answer =>
    ∃ before after, current = before ++ after ∧ next = before ++ rule :: after ∧
      placement.At before after ∧ answer = .index before.length ∧
      rule ∉ current ∧ ∃ parsed, parseRule rule = .ok parsed
  | .replace oldRule newRule, answer =>
    ∃ before after, current = before ++ oldRule :: after ∧ next = before ++ newRule :: after ∧
      answer = .index before.length ∧ newRule ∉ before ++ after ∧
      ∃ parsed, parseRule newRule = .ok parsed
  | .remove rule, answer =>
    ∃ before after, current = before ++ rule :: after ∧ next = before ++ after ∧
      answer = .removed rule

end RuleOperation

def RuleEffect (operation : RuleOperation) (current : List String)
    (revision : LocalRuleSetRevision)
    (outcome : Except (RuleSetError RuleParseError) RuleAnswer × LocalRuleSet) : Prop :=
  (∃ e, outcome = (.error e, .initializedAt current revision)) ∨
  ∃ answer next revision', outcome = (.ok answer, .initializedAt next revision') ∧
    operation.Changes current next answer ∧
    (next = current ∧ revision' = revision ∨
      next ≠ current ∧ revision'.toNat = revision.toNat + 1)

theorem mapError_ok {x : Except ε α} {f : ε → ε'} (h : x.mapError f = .ok a) : x = .ok a := by
  cases x with
  | error e => cases h
  | ok b =>
    cases h
    rfl

namespace RuleOperation

theorem perform_add (rule : String) (placement : RulePlacement) (current : List String)
    (revision : LocalRuleSetRevision) : RuleEffect (.add rule placement) current revision
      ((add rule placement).perform (.initializedAt current revision)) := by
  rw [perform, edit, RuleEdit.outcome_map, RuleEdit.outcome_add]
  cases hadd : LocalRuleSet.add parseRule rule placement (.initializedAt current revision) with
  | error e => exact .inl ⟨e, rfl⟩
  | ok result =>
    obtain ⟨parsed, hparse, hadd⟩ := bind_eq_ok.1 hadd
    obtain ⟨index, hindex, hadd⟩ := bind_eq_ok.1 hadd
    by_cases hnew : matchingRuleIndexes current rule = []
    case neg =>
      simp only [hnew, ne_eq, not_false_eq_true, if_true] at hadd
      cases hadd
    simp only [hnew, ne_eq, not_true_eq_false, if_false] at hadd
    obtain ⟨next, hnext, hadd⟩ := bind_eq_ok.1 hadd
    cases hadd
    obtain ⟨before, after, rfl, rfl, hat⟩ := RulePlacement.index_ok hindex
    have hfresh := not_mem_of_matchingRuleIndexes hnew
    have hlist := insertIdx_around before after rule
    refine .inr ⟨.index before.length, before ++ rule :: after, next, ?_, ?_, .inr ⟨?_, ?_⟩⟩
    · rw [← hlist]
      rfl
    · exact ⟨before, after, rfl, rfl, hat, rfl, hfresh, parsed, mapError_ok hparse⟩
    · intro heq
      have := congrArg List.length heq
      simp only [List.length_append, List.length_cons] at this
      omega
    · exact nextRevision_ok hnext

theorem perform_replace (oldRule newRule : String) (current : List String)
    (revision : LocalRuleSetRevision) : RuleEffect (.replace oldRule newRule) current revision
      ((replace oldRule newRule).perform (.initializedAt current revision)) := by
  rw [perform, edit, RuleEdit.outcome_map, RuleEdit.outcome_replace]
  cases hreplace : LocalRuleSet.replace parseRule oldRule newRule
      (.initializedAt current revision) with
  | error e => exact .inl ⟨e, rfl⟩
  | ok result =>
    obtain ⟨parsed, hparse, hreplace⟩ := bind_eq_ok.1 hreplace
    obtain ⟨index, hindex, hreplace⟩ := bind_eq_ok.1 hreplace
    have hold := exactRuleIndex_ok hindex
    by_cases hnew : (matchingRuleIndexes current newRule).filter (· ≠ index) = []
    case neg =>
      simp only [hnew, ne_eq, not_false_eq_true, if_true] at hreplace
      cases hreplace
    have hothers : ∀ other, other ≠ index → current[other]? ≠ some newRule := by
      intro other hother hsome
      have hnone := List.filter_eq_nil_iff.1 hnew other (mem_matchingRuleIndexes.2 hsome)
      exact hnone (decide_eq_true hother)
    simp only [hnew, ne_eq, not_true_eq_false, if_false] at hreplace
    obtain ⟨before, after, rfl, rfl⟩ := eq_around hold
    have hfresh : newRule ∉ before ++ after := by
      intro hmem
      rcases List.mem_append.1 hmem with hmem | hmem
      · obtain ⟨i, hi⟩ := List.mem_iff_getElem?.1 hmem
        obtain ⟨hlt, _⟩ := List.getElem?_eq_some_iff.1 hi
        exact hothers i hlt.ne (by rwa [List.getElem?_append_left hlt])
      · obtain ⟨i, hi⟩ := List.mem_iff_getElem?.1 hmem
        refine hothers (before.length + (i + 1)) (by omega) ?_
        rwa [List.getElem?_append_right (by omega), Nat.add_sub_cancel_left,
          List.getElem?_cons_succ]
    have hset : (before ++ oldRule :: after).set before.length newRule =
        before ++ newRule :: after := by
      simp
    have hchanges : (replace oldRule newRule).Changes (before ++ oldRule :: after)
        (before ++ newRule :: after) (.index before.length) :=
      ⟨before, after, rfl, rfl, rfl, hfresh, parsed, mapError_ok hparse⟩
    split at hreplace
    · rename_i hsame
      cases hreplace
      rw [hold, Option.some.injEq] at hsame
      subst hsame
      exact .inr ⟨_, _, revision, rfl, hchanges, .inl ⟨rfl, rfl⟩⟩
    · rename_i hdiffers
      obtain ⟨next, hnext, hreplace⟩ := bind_eq_ok.1 hreplace
      cases hreplace
      refine .inr ⟨_, _, next, ?_, hchanges, .inr ⟨fun heq => ?_, nextRevision_ok hnext⟩⟩
      · rw [← hset]
        rfl
      · rw [List.append_cancel_left_eq, List.cons.injEq] at heq
        rw [hold, heq.1] at hdiffers
        exact hdiffers rfl

theorem perform_remove (rule : String) (current : List String) (revision : LocalRuleSetRevision) :
    RuleEffect (.remove rule) current revision
      ((remove rule).perform (.initializedAt current revision)) := by
  rw [perform, edit, RuleEdit.outcome_map, RuleEdit.outcome_remove]
  cases hremove : LocalRuleSet.remove (E := RuleParseError) rule
      (.initializedAt current revision) with
  | error e => exact .inl ⟨e, rfl⟩
  | ok result =>
    obtain ⟨index, hindex, hremove⟩ := bind_eq_ok.1 hremove
    obtain ⟨next, hnext, hremove⟩ := bind_eq_ok.1 hremove
    cases hremove
    obtain ⟨before, after, rfl, rfl⟩ := eq_around (exactRuleIndex_ok hindex)
    have hremoved : (before ++ rule :: after).getD before.length "" = rule := by simp
    have herased : (before ++ rule :: after).eraseIdx before.length = before ++ after := by
      simp [List.eraseIdx_append_of_length_le]
    refine .inr ⟨.removed rule, before ++ after, next, ?_, ⟨before, after, rfl, rfl, rfl⟩,
      .inr ⟨fun heq => ?_, nextRevision_ok hnext⟩⟩
    · rw [hremoved, herased]
      rfl
    · have := congrArg List.length heq
      simp only [List.length_append, List.length_cons] at this
      omega

theorem perform_effect (operation : RuleOperation) (current : List String)
    (revision : LocalRuleSetRevision) : RuleEffect operation current revision
      (operation.perform (.initializedAt current revision)) := by
  cases operation with
  | add rule placement => exact perform_add rule placement current revision
  | replace oldRule newRule => exact perform_replace oldRule newRule current revision
  | remove rule => exact perform_remove rule current revision

theorem Changes.nodup {operation : RuleOperation} (h : operation.Changes current next answer)
    (hnodup : current.Nodup) : next.Nodup := by
  cases operation with
  | add rule placement =>
    obtain ⟨before, after, rfl, rfl, _, _, hfresh, _⟩ := h
    exact List.nodup_middle.2 (List.nodup_cons.2 ⟨hfresh, hnodup⟩)
  | replace oldRule newRule =>
    obtain ⟨before, after, rfl, rfl, _, hfresh, _⟩ := h
    have hrest := (List.nodup_cons.1 (List.nodup_middle.1 hnodup)).2
    exact List.nodup_middle.2 (List.nodup_cons.2 ⟨hfresh, hrest⟩)
  | remove rule =>
    obtain ⟨before, after, rfl, rfl, _⟩ := h
    exact (List.nodup_cons.1 (List.nodup_middle.1 hnodup)).2

theorem Changes.parses {operation : RuleOperation} (h : operation.Changes current next answer)
    (hrule : rule ∈ next) : rule ∈ current ∨ ∃ parsed, parseRule rule = .ok parsed := by
  cases operation with
  | add newRule placement =>
    obtain ⟨before, after, rfl, rfl, _, _, _, hparsed⟩ := h
    rcases List.mem_cons.1 (List.perm_middle.subset hrule) with rfl | hrule
    · exact .inr hparsed
    · exact .inl hrule
  | replace oldRule newRule =>
    obtain ⟨before, after, rfl, rfl, _, _, hparsed⟩ := h
    rcases List.mem_cons.1 (List.perm_middle.subset hrule) with rfl | hrule
    · exact .inr hparsed
    · exact .inl (List.perm_middle.symm.subset (List.mem_cons_of_mem _ hrule))
  | remove oldRule =>
    obtain ⟨before, after, rfl, rfl, _⟩ := h
    exact .inl (List.perm_middle.symm.subset (List.mem_cons_of_mem _ hrule))

theorem run_rules (operations : List RuleOperation) {rules : List String} (hnodup : rules.Nodup)
    (revision : LocalRuleSetRevision) :
    ∃ current revision', run (.initializedAt rules revision) operations =
        .initializedAt current revision' ∧ current.Nodup ∧
      ∀ rule ∈ current, rule ∈ rules ∨ ∃ parsed, parseRule rule = .ok parsed := by
  induction operations generalizing rules revision with
  | nil => exact ⟨rules, revision, rfl, hnodup, fun _ hrule => .inl hrule⟩
  | cons operation rest ih =>
    rw [run]
    obtain ⟨e, heffect⟩ | ⟨answer, next, revision', heffect, hchanges, _⟩ :=
      operation.perform_effect rules revision
    · rw [heffect]
      exact ih hnodup revision
    · rw [heffect]
      obtain ⟨current, last, heq, hcurrent, hparses⟩ := ih (hchanges.nodup hnodup) revision'
      refine ⟨current, last, heq, hcurrent, fun rule hrule => ?_⟩
      rcases hparses rule hrule with hnext | hparsed
      · exact hchanges.parses hnext
      · exact .inr hparsed

end RuleOperation

/-- Whatever operations a duplicate-free rule set has gone through, it is free of duplicates and of
rules that were put in without being one; and the next operation either fails and changes nothing,
or does to the list what it says, and moves the revision on by one if that changes the list. -/
theorem rule_edits_lawful (rules : List String) (hnodup : rules.Nodup)
    (revision : LocalRuleSetRevision) (operations : List RuleOperation)
    (operation : RuleOperation) :
    let ruleSet := RuleOperation.run (.initializedAt rules revision) operations
    let answer := (operation.perform ruleSet).1
    let after := (operation.perform ruleSet).2
    ∃ current, ruleSet.rules = some current ∧ current.Nodup ∧
      (∀ rule ∈ current, rule ∈ rules ∨ ∃ parsed, parseRule rule = .ok parsed) ∧
      (∀ e, answer = .error e → after = ruleSet) ∧
      (∀ given, answer = .ok given →
        ∃ next, after.rules = some next ∧ operation.Changes current next given) ∧
      (after.rules ≠ ruleSet.rules → after.revision.toNat = ruleSet.revision.toNat + 1) ∧
      (after.rules = ruleSet.rules → after = ruleSet) ∧
      ∀ rule, operation = .replace rule rule → after = ruleSet := by
  intro ruleSet answer after
  obtain ⟨current, last, heq, hcurrent, hparses⟩ :=
    RuleOperation.run_rules operations hnodup revision
  have hset : ruleSet = .initializedAt current last := heq
  refine ⟨current, by rw [hset]; rfl, hcurrent, hparses, ?_⟩
  have heffect := operation.perform_effect current last
  rw [← hset] at heffect
  obtain ⟨e, heffect⟩ | ⟨given, next, revision', heffect, hchanges, hrevision⟩ := heffect
  · have hafter : after = ruleSet := (congrArg Prod.snd heffect).trans hset.symm
    have hanswer : answer = .error e := congrArg Prod.fst heffect
    refine ⟨fun _ _ => hafter, ?_, ?_, fun _ => hafter, fun _ _ => hafter⟩
    · intro given hgiven
      rw [hanswer] at hgiven
      cases hgiven
    · intro hne
      exact absurd (congrArg LocalRuleSet.rules hafter) hne
  · have hafter : after = .initializedAt next revision' := congrArg Prod.snd heffect
    have hanswer : answer = .ok given := congrArg Prod.fst heffect
    have hsame : next = current → after = ruleSet := by
      intro hnext
      obtain ⟨_, hrevision⟩ | ⟨hne, _⟩ := hrevision
      · rw [hafter, hset, hnext, hrevision]
      · exact absurd hnext hne
    have hlists : after.rules = ruleSet.rules ↔ next = current := by
      rw [hafter, hset]
      exact Option.some_inj
    refine ⟨?_, ?_, ?_, fun h => hsame (hlists.1 h), ?_⟩
    · intro e herror
      rw [hanswer] at herror
      cases herror
    · intro given' hgiven
      rw [hanswer] at hgiven
      cases hgiven
      exact ⟨next, by rw [hafter]; rfl, hchanges⟩
    · intro hne
      obtain ⟨hnext, _⟩ | ⟨_, hrevision⟩ := hrevision
      · exact absurd (hlists.2 hnext) hne
      · rw [hafter, hset]
        exact hrevision
    · rintro rule rfl
      obtain ⟨before, after', rfl, rfl, _⟩ := hchanges
      exact hsame rfl

/-- A rule set is initialised with texts that are no rules, too. -/
theorem unparsed_rule_kept : ["nonsense"].Nodup ∧
      (RuleOperation.run (.initialized ["nonsense"]) [.add "MATCH,DIRECT" .append]).rules =
        some ["nonsense", "MATCH,DIRECT"] ∧ ¬∃ parsed, parseRule "nonsense" = .ok parsed := by
  refine ⟨by decide, by decide +kernel, ?_⟩
  rintro ⟨parsed, h⟩
  have herror : parseRule "nonsense" = .error (.unsupportedRuleType "nonsense") := by
    decide +kernel
  rw [herror] at h
  cases h

theorem rule_edits_lawful_before :
    let ruleSet := RuleOperation.run (.initializedAt ["MATCH,DIRECT"] 1)
      [.add "DOMAIN,a,REJECT" (.before "MATCH,DIRECT")]
    ruleSet = .initializedAt ["DOMAIN,a,REJECT", "MATCH,DIRECT"] 2 ∧
      ∃ current, ruleSet.rules = some current ∧ current.Nodup := by
  refine ⟨by decide +kernel, ?_⟩
  obtain ⟨current, hrules, hnodup, _⟩ := rule_edits_lawful ["MATCH,DIRECT"] (by decide) 1
    [.add "DOMAIN,a,REJECT" (.before "MATCH,DIRECT")] (.remove "MATCH,DIRECT")
  exact ⟨current, hrules, hnodup⟩

end Ratash
