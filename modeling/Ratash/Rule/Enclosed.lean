import Ratash.Rule.Rendered

namespace Ratash

open Text (splitOnce)

/-- The characters outside escapes and character classes. -/
def plainCharacters : (escaped inCharacterClass : Bool) → List Char → List Char
  | _, _, [] => []
  | true, inCharacterClass, _ :: text => plainCharacters false inCharacterClass text
  | false, inCharacterClass, character :: text =>
    if character = '\\' then plainCharacters true inCharacterClass text
    else if character = '[' then plainCharacters false true text
    else if character = ']' then plainCharacters false false text
    else if inCharacterClass then plainCharacters false true text
    else character :: plainCharacters false false text

def openedBehind (text : List Char) : Int :=
  (plainCharacters false false text).count '(' - (plainCharacters false false text).count ')'

/-- One expression in parentheses: the first one is closed by the last character and not before. -/
structure IsExpression (text : List Char) : Prop where
  starts : text.head? = some '('
  ends : text.getLast? = some ')'
  balanced : ∀ before, before <+: text → 0 ≤ openedBehind before
  closed : openedBehind text = 0
  inside : ∀ before, before <+: text → before ≠ [] → before ≠ text → 0 < openedBehind before

namespace LogicalScan

def level (scan : LogicalScan) (text : List Char) : Int :=
  let plain := plainCharacters scan.escaped scan.inCharacterClass text
  scan.depth + plain.count '(' - plain.count ')'

theorem level_nil (scan : LogicalScan) : scan.level [] = scan.depth := by
  simp [level, plainCharacters]

theorem level_goOn {scan next : LogicalScan} (h : scan.step character = .goOn next)
    (text : List Char) : scan.level (character :: text) = next.level text := by
  obtain ⟨depth, escaped, inCharacterClass⟩ := scan
  unfold step at h
  cases escaped with
  | true =>
    cases h
    rfl
  | false =>
    simp only [Bool.false_eq_true, if_false] at h
    split at h
    · rename_i hescape
      cases h
      simp only [level, plainCharacters, if_pos hescape]
    split at h
    · rename_i hescape hopen
      cases h
      simp only [level, plainCharacters, if_neg hescape, if_pos hopen]
    split at h
    · rename_i hescape hopen hclose
      cases h
      simp only [level, plainCharacters, if_neg hescape, if_neg hopen, if_pos hclose]
    rename_i hescape hopen hclose
    cases inCharacterClass with
    | true =>
      cases h
      simp only [level, plainCharacters, if_neg hescape, if_neg hopen, if_neg hclose, if_true]
    | false =>
      simp only [Bool.false_eq_true, if_false] at h
      simp only [level, plainCharacters, if_neg hescape, if_neg hopen, if_neg hclose,
        Bool.false_eq_true, if_false, List.count_cons]
      split at h
      · rename_i hparen
        cases h
        simp [hparen]
        omega
      split at h
      · rename_i hparen
        split at h
        · cases h
        split at h
        · cases h
        cases h
        simp [hparen]
        omega
      rename_i hleft hright
      split at h
      · cases h
      cases h
      simp [hleft, hright]

theorem depth_goOn {scan next : LogicalScan} (h : scan.step character = .goOn next)
    (hdepth : 0 < scan.depth) : 0 < next.depth := by
  unfold step at h
  repeat' split at h
  all_goals cases h
  all_goals first
    | exact hdepth
    | exact Nat.succ_pos _
    | exact Nat.pos_of_ne_zero (by assumption)

theorem level_finish {scan : LogicalScan} (h : scan.step character = .finish) :
    character = ')' ∧ scan.level [character] = 0 := by
  obtain ⟨depth, escaped, inCharacterClass⟩ := scan
  unfold step at h
  split at h
  · cases h
  split at h
  · cases h
  split at h
  · cases h
  split at h
  · cases h
  split at h
  · cases h
  split at h
  · cases h
  split at h
  · rename_i hescaped hescape hopen hclose hclass hleft hright
    split at h
    · cases h
    split at h
    · rename_i hpos hone
      subst hright
      dsimp only at hescaped hclass hpos hone
      rw [Bool.not_eq_true] at hescaped hclass
      subst hescaped hclass
      refine ⟨rfl, ?_⟩
      simp [level, plainCharacters]
      omega
    · cases h
  · split at h
    · cases h
    · cases h

theorem level_of_run {scan : LogicalScan} (hdepth : 0 < scan.depth) (h : scan.run text = some n) :
    scan.level (text.take n) = 0 ∧
      ∀ before, before <+: text.take n → before ≠ text.take n → 0 < scan.level before := by
  induction text generalizing scan n with
  | nil => cases h
  | cons character text ih =>
    cases hstep : scan.step character with
    | refuse =>
      rw [run, hstep] at h
      cases h
    | finish =>
      rw [run, hstep] at h
      cases h
      refine ⟨(level_finish hstep).2, ?_⟩
      intro before hbefore hne
      cases before with
      | nil =>
        rw [level_nil]
        omega
      | cons first before =>
        obtain ⟨rfl, htail⟩ := List.cons_prefix_cons.1 hbefore
        rw [List.prefix_nil.1 htail] at hne
        exact absurd rfl hne
    | goOn next =>
      rw [run, hstep] at h
      obtain ⟨m, hm, rfl⟩ := Option.map_eq_some_iff.1 h
      have hnext := depth_goOn hstep hdepth
      obtain ⟨hclosed, hinside⟩ := ih hnext hm
      rw [List.take_succ_cons]
      refine ⟨(level_goOn hstep _).trans hclosed, ?_⟩
      intro before hbefore hne
      cases before with
      | nil =>
        rw [level_nil]
        omega
      | cons first before =>
        obtain ⟨rfl, htail⟩ := List.cons_prefix_cons.1 hbefore
        rw [level_goOn hstep]
        exact hinside before htail fun heq => hne (congrArg _ heq)

end LogicalScan

theorem openedBehind_eq (text : List Char) :
    openedBehind text = LogicalScan.level ⟨0, false, false⟩ text := by
  simp [openedBehind, LogicalScan.level]

theorem isExpression_of_paren (h : logicalPayloadEnd ('(' :: text) = some n) :
    IsExpression (('(' :: text).take n) := by
  obtain ⟨inner, rest, htext, rfl, _⟩ := LogicalScan.run_eq_some h
  have htake : ('(' :: text).take (inner.length + 1) = inner ++ [')'] := by
    rw [htext, List.append_cons]
    exact List.take_left' (by simp)
  have hfirst : LogicalScan.step ⟨0, false, false⟩ '(' = .goOn ⟨1, false, false⟩ := rfl
  rw [logicalPayloadEnd, LogicalScan.run, hfirst] at h
  obtain ⟨m, hm, hlength⟩ := Option.map_eq_some_iff.1 h
  obtain ⟨hclosed, hinside⟩ := LogicalScan.level_of_run Nat.one_pos hm
  rw [← hlength, List.take_succ_cons] at htake ⊢
  have hbehind : ∀ before, openedBehind ('(' :: before) =
      LogicalScan.level ⟨1, false, false⟩ before := fun before =>
    (openedBehind_eq _).trans (LogicalScan.level_goOn hfirst before)
  have hwithin : ∀ before, before <+: '(' :: text.take m → before ≠ [] →
      before ≠ '(' :: text.take m → 0 < openedBehind before := by
    intro before hbefore hne hproper
    cases before with
    | nil => exact absurd rfl hne
    | cons first before =>
      obtain ⟨rfl, htail⟩ := List.cons_prefix_cons.1 hbefore
      rw [hbehind]
      exact hinside before htail fun heq => hproper (congrArg _ heq)
  refine ⟨rfl, ?_, ?_, (hbehind _).trans hclosed, hwithin⟩
  · rw [htake, List.getLast?_append, List.getLast?_singleton]
    rfl
  · intro before hbefore
    by_cases hnil : before = []
    · rw [hnil]
      exact Int.le_refl 0
    · by_cases hwhole : before = '(' :: text.take m
      · exact Int.le_of_eq (hwhole ▸ (hbehind _).trans hclosed).symm
      · exact Int.le_of_lt (hwithin before hbefore hnil hwhole)

/-- The text of a rule behind its type, from the first character that is not white space on. -/
def behindType (rule : String) : List Char :=
  Text.trimStart isWhitespace ((splitOnce ',' rule.toList).getD (rule.toList, [])).2

/-- The payload of a logical rule is one expression in parentheses exactly if the text behind the
type starts with a parenthesis. -/
theorem logical_payload_enclosed (rule : String) (parsed : ParsedRule)
    (h : parseRule rule = .ok parsed) (hlogical : parsed.ruleType.shape = .logical) :
    ∃ payload, parsed.payload = some payload ∧
      (IsExpression payload.toList ↔ (behindType rule).head? = some '(') := by
  unfold parseRule at h
  unfold behindType
  generalize (splitOnce ',' rule.toList).getD (rule.toList, []) = parts at h ⊢
  obtain ⟨typeText, remainder⟩ := parts
  obtain ⟨ruleType, htype, hshape⟩ := bind_eq_ok.1 h
  obtain ⟨rfl, _⟩ := parseShape_recovered hshape
  simp only [parseShape, hlogical] at hshape
  obtain ⟨inner, rest, tail, policyTarget, htext, _, hother, _, _, _, hparsed⟩ :=
    parseLogicalRule_ok hshape
  refine ⟨.ofList (inner ++ [')']), by rw [hparsed], ?_⟩
  rw [String.toList_ofList]
  dsimp only
  rw [htext]
  cases inner with
  | nil =>
    -- a closing parenthesis alone is refused
    have hnone := hother []
    cases hnone
  | cons first inner =>
    constructor
    · exact fun hexpression => hexpression.starts
    · intro hfirst
      cases hfirst
      have hend := hother []
      have hexpression := isExpression_of_paren hend
      rwa [List.take_of_length_le (by simp)] at hexpression

/-- A character class before the first parenthesis is taken for a part of the expression. -/
theorem class_before_expression : ∃ parsed, parseRule "AND,[x](DOMAIN,a),DIRECT" = .ok parsed ∧
      parsed.payload = some "[x](DOMAIN,a)" ∧ ¬IsExpression "[x](DOMAIN,a)".toList := by
  refine ⟨⟨"AND,[x](DOMAIN,a),DIRECT", .and, some "[x](DOMAIN,a)", "DIRECT", []⟩,
    by decide +kernel, rfl, fun h => ?_⟩
  cases h.starts

theorem logical_payload_enclosed_plain :
    ∃ payload, (⟨"NOT, ((DOMAIN,a)), DIRECT", .not, some "((DOMAIN,a))", "DIRECT", []⟩ :
        ParsedRule).payload = some payload ∧ IsExpression payload.toList := by
  obtain ⟨payload, hpayload, hiff⟩ := logical_payload_enclosed "NOT, ((DOMAIN,a)), DIRECT"
    ⟨"NOT, ((DOMAIN,a)), DIRECT", .not, some "((DOMAIN,a))", "DIRECT", []⟩ (by decide +kernel) rfl
  exact ⟨payload, hpayload, hiff.2 (by decide +kernel)⟩

end Ratash
