import Ratash.Rule.Parse
import Ratash.Text.Utf8

namespace Ratash

open Text (splitOnce rsplitOnce join Trimmed join_cons_cons join_singleton)

structure IsField (text : List Char) : Prop where
  trimmed : Trimmed isWhitespace text
  comma : ',' ∉ text

theorem comma_trim : ',' ∈ trim text ↔ ',' ∈ text := Text.mem_trim (by decide)

theorem isField_of_split {text : List Char} (h : field ∈ (text.splitOn ',').map trim) :
    IsField field := by
  obtain ⟨raw, hraw, rfl⟩ := List.mem_map.1 h
  exact ⟨Text.trimmed_trim _ _, comma_trim.not.2 (Text.not_mem_of_mem_splitOn hraw)⟩

theorem fields_join (h : ∀ field ∈ fields, IsField field) (hne : fields ≠ []) :
    ((join ',' fields).splitOn ',').map trim = fields := by
  rw [Text.splitOn_join (fun field hfield => (h field hfield).comma) hne]
  conv => rhs; rw [← List.map_id fields]
  apply List.map_congr_left
  exact fun field hfield => (h field hfield).trimmed.trim_eq

theorem fields_sublist (text : List Char) :
    List.Sublist (join ',' ((text.splitOn ',').map trim)) text := by
  conv => rhs; rw [← Text.join_splitOn ',' text]
  exact Text.join_sublist isWhitespace ',' _

theorem requiredField_ok (h : requiredField value error = .ok field) :
    value = some field.toList ∧ field.toList ≠ [] := by
  unfold requiredField at h
  split at h
  · split at h
    · cases h
    · rename_i hne
      cases h
      exact ⟨by rw [String.toList_ofList], by rwa [String.toList_ofList]⟩
  · cases h

theorem requiredField_some (h : field.toList ≠ []) (error : RuleParseError) :
    requiredField (some field.toList) error = .ok field := by
  rw [requiredField, if_neg h, String.ofList_toList]

theorem map_toList_ofList (texts : List (List Char)) :
    (texts.map String.ofList).map String.toList = texts := by
  rw [List.map_map]
  conv => rhs; rw [← List.map_id texts]
  apply List.map_congr_left
  exact fun text _ => String.toList_ofList

theorem ParsedRule.fields_ne_nil (parsed : ParsedRule) : parsed.fields ≠ [] := by
  simp [ParsedRule.fields]

/-! What a shape gives is read again from its joined fields, which are part of the text. -/

def Recovered (parse : String → RuleType → List Char → Except RuleParseError ParsedRule)
    (ruleType : RuleType) (remainder : List Char) (parsed : ParsedRule) : Prop :=
  parsed.ruleType = ruleType ∧ List.Sublist (join ',' parsed.fields) remainder ∧
    ∀ rule, parse rule ruleType (join ',' parsed.fields) = .ok { parsed with original := rule }

theorem eq_cons_drop {fields : List (List Char)} (h : fields[n]? = some field) :
    fields.drop n = field :: fields.drop (n + 1) := by
  obtain ⟨hlt, rfl⟩ := List.getElem?_eq_some_iff.1 h
  exact List.drop_eq_getElem_cons hlt

theorem parseRuleWithoutPayload_recovered
    (h : parseRuleWithoutPayload rule ruleType remainder = .ok parsed) :
    Recovered parseRuleWithoutPayload ruleType remainder parsed := by
  obtain ⟨policyTarget, htarget, h⟩ := bind_eq_ok.1 h
  obtain ⟨htarget, hne⟩ := requiredField_ok htarget
  have hfields : ParsedRule.fields parsed = (remainder.splitOn ',').map trim := by
    have hall := eq_cons_drop htarget
    cases h
    simp only [ParsedRule.fields, Option.toList_none, List.map_nil, List.nil_append,
      map_toList_ofList]
    exact hall.symm
  refine ⟨by cases h; rfl, hfields ▸ fields_sublist remainder, fun rule => ?_⟩
  have hisField : ∀ field ∈ (remainder.splitOn ',').map trim, IsField field :=
    fun _ => isField_of_split
  have hjoin := fields_join hisField (hfields ▸ parsed.fields_ne_nil)
  rw [hfields, parseRuleWithoutPayload, hjoin, htarget, requiredField_some hne]
  cases h
  rfl

theorem parseStandardRule_recovered (h : parseStandardRule rule ruleType remainder = .ok parsed) :
    Recovered parseStandardRule ruleType remainder parsed := by
  obtain ⟨payload, hpayload, h⟩ := bind_eq_ok.1 h
  obtain ⟨policyTarget, htarget, h⟩ := bind_eq_ok.1 h
  obtain ⟨hpayload, hpayloadNe⟩ := requiredField_ok hpayload
  obtain ⟨htarget, htargetNe⟩ := requiredField_ok htarget
  have hfields : ParsedRule.fields parsed = (remainder.splitOn ',').map trim := by
    have hall := eq_cons_drop hpayload
    rw [eq_cons_drop htarget] at hall
    cases h
    simp only [ParsedRule.fields, Option.toList_some, List.map_cons, List.map_nil,
      List.cons_append, List.nil_append, map_toList_ofList]
    exact hall.symm
  refine ⟨by cases h; rfl, hfields ▸ fields_sublist remainder, fun rule => ?_⟩
  have hisField : ∀ field ∈ (remainder.splitOn ',').map trim, IsField field :=
    fun _ => isField_of_split
  have hjoin := fields_join hisField (hfields ▸ parsed.fields_ne_nil)
  rw [hfields, parseStandardRule, hjoin, hpayload, requiredField_some hpayloadNe, htarget,
    requiredField_some htargetNe]
  cases h
  rfl

theorem trim_of_parameter (h : isRuleParameter parameter = true) :
    trim parameter = parameter ∧ ',' ∉ parameter := by
  rw [isRuleParameter, Bool.or_eq_true, decide_eq_true_eq, decide_eq_true_eq] at h
  obtain rfl | rfl := h
  · decide
  · decide

def ParamsTaken (ruleAndTarget : List Char) : Prop :=
  ∀ head tail, rsplitOnce ',' ruleAndTarget = some (head, tail) →
    isRuleParameter (trim tail) = false ∨ ',' ∉ head

theorem paramsTaken_nil : ParamsTaken [] := by
  intro head tail h
  cases h

theorem popParams_of_taken (h : ParamsTaken ruleAndTarget) (params : List (List Char)) :
    popParams ruleAndTarget params = (ruleAndTarget, params) := by
  unfold popParams
  split
  · rfl
  · rename_i head tail hsplit
    exact if_pos (h head tail hsplit)

theorem join_snoc (first : List Char) (rest : List (List Char)) (last : List Char) :
    join ',' (first :: (rest ++ [last])) = join ',' (first :: rest) ++ ',' :: last := by
  induction rest generalizing first with
  | nil => simp
  | cons next rest ih =>
    rw [List.cons_append, join_cons_cons, ih, join_cons_cons, List.append_assoc, List.cons_append]

theorem mem_join_of_mem_head (h : x ∈ first) (rest : List (List Char)) :
    x ∈ join ',' (first :: rest) := by
  cases rest with
  | nil => simpa using h
  | cons next rest =>
    rw [join_cons_cons]
    exact List.mem_append_left _ h

theorem popParams_join (hcomma : ',' ∈ ruleAndTarget) (htaken : ParamsTaken ruleAndTarget)
    (popped : List (List Char)) (hpopped : ∀ parameter ∈ popped, isRuleParameter parameter = true)
    (params : List (List Char)) :
    popParams (join ',' (ruleAndTarget :: popped)) params = (ruleAndTarget, popped ++ params) := by
  induction popped using List.reverseRecOn generalizing params with
  | nil => rw [join_singleton, popParams_of_taken htaken, List.nil_append]
  | append_singleton popped parameter ih =>
    have hparameter := hpopped parameter (by simp)
    obtain ⟨htrim, hfield⟩ := trim_of_parameter hparameter
    have hsplit := Text.rsplitOnce_append (join ',' (ruleAndTarget :: popped)) hfield
    rw [join_snoc]
    unfold popParams
    split
    · rename_i hnone
      rw [hsplit] at hnone
      cases hnone
    · rename_i head tail hsome
      rw [hsplit] at hsome
      cases hsome
      have hgo : ¬(isRuleParameter (trim parameter) = false ∨
          ',' ∉ join ',' (ruleAndTarget :: popped)) := by
        rw [htrim, hparameter]
        simpa using mem_join_of_mem_head hcomma popped
      dsimp only
      rw [if_neg hgo, htrim, ih fun other hother => hpopped other (List.mem_append_left _ hother),
        List.append_assoc, List.singleton_append]

theorem popParams_spec (ruleAndTarget : List Char) (params : List (List Char)) :
    ∃ left popped, popParams ruleAndTarget params = (left, popped ++ params) ∧ ParamsTaken left ∧
      (∀ parameter ∈ popped, isRuleParameter parameter = true) ∧
      List.Sublist (join ',' (left :: popped)) ruleAndTarget := by
  fun_induction popParams ruleAndTarget params with
  | case1 ruleAndTarget params hnone =>
    refine ⟨ruleAndTarget, [], rfl, ?_, ?_, by simp⟩
    · intro head tail hsome
      rw [hnone] at hsome
      cases hsome
    · exact fun _ h => absurd h List.not_mem_nil
  | case2 ruleAndTarget params head tail hsplit parameter hstop =>
    refine ⟨ruleAndTarget, [], rfl, ?_, ?_, by simp⟩
    · intro head' tail' hsome
      rw [hsplit] at hsome
      cases hsome
      exact hstop
    · exact fun _ h => absurd h List.not_mem_nil
  | case3 ruleAndTarget params head tail hsplit parameter hgo ih =>
    obtain ⟨left, popped, heq, htaken, hpopped, hsub⟩ := ih
    obtain ⟨rfl, _⟩ := Text.rsplitOnce_eq_some hsplit
    refine ⟨left, popped ++ [parameter], ?_, htaken, ?_, ?_⟩
    · rw [heq, List.append_assoc, List.singleton_append]
    · intro other hother
      rcases List.mem_append.1 hother with hother | hother
      · exact hpopped other hother
      · rw [List.mem_singleton.1 hother]
        exact Bool.not_eq_false _ ▸ (not_or.1 hgo).1
    · rw [join_snoc]
      exact hsub.append ((Text.trim_sublist _ tail).cons_cons ',')

theorem join_regex (payload target : List Char) (popped : List (List Char)) :
    join ',' (payload :: target :: popped) = join ',' ((payload ++ ',' :: target) :: popped) := by
  cases popped with
  | nil => simp
  | cons next rest => simp only [join_cons_cons, List.append_assoc, List.cons_append]

theorem parseRegexRule_join {payload policyTarget : String} {popped : List (List Char)}
    (hpayload : trim payload.toList = payload.toList) (hpayloadNe : payload.toList ≠ [])
    (htarget : IsField policyTarget.toList) (htargetNe : policyTarget.toList ≠ [])
    (hstop : isRuleParameter policyTarget.toList = false ∨ ',' ∉ payload.toList)
    (hpopped : ∀ parameter ∈ popped, isRuleParameter parameter = true) (rule : String) :
    parseRegexRule rule ruleType (join ',' (payload.toList :: policyTarget.toList :: popped)) =
      .ok ⟨rule, ruleType, some payload, policyTarget, popped.map .ofList⟩ := by
  have hsplit := Text.rsplitOnce_append payload.toList htarget.comma
  have htaken : ParamsTaken (payload.toList ++ ',' :: policyTarget.toList) := by
    intro head tail hsome
    rw [hsplit] at hsome
    cases hsome
    rw [trim, htarget.trimmed.trim_eq]
    exact hstop
  have hpop := popParams_join (by simp) htaken popped hpopped []
  rw [join_regex]
  have htrim : trim policyTarget.toList = policyTarget.toList := htarget.trimmed.trim_eq
  simp only [parseRegexRule, hpop, hsplit, hpayload, htrim, requiredField_some hpayloadNe,
    requiredField_some htargetNe, List.append_nil]
  rfl

theorem parseRegexRule_recovered (h : parseRegexRule rule ruleType remainder = .ok parsed) :
    Recovered parseRegexRule ruleType remainder parsed := by
  obtain ⟨left, popped, heq, htaken, hpopped, hsub⟩ := popParams_spec remainder []
  rw [List.append_nil] at heq
  simp only [parseRegexRule, heq] at h
  cases hsplit : rsplitOnce ',' left with
  | none =>
    rw [hsplit] at h
    cases h
  | some parts =>
    obtain ⟨payloadText, targetText⟩ := parts
    rw [hsplit] at h
    obtain ⟨payload, hpayload, h⟩ := bind_eq_ok.1 h
    obtain ⟨policyTarget, htarget, h⟩ := bind_eq_ok.1 h
    obtain ⟨hpayload, hpayloadNe⟩ := requiredField_ok hpayload
    obtain ⟨htarget, htargetNe⟩ := requiredField_ok htarget
    rw [Option.some.injEq] at hpayload htarget
    obtain ⟨rfl, hcomma⟩ := Text.rsplitOnce_eq_some hsplit
    have hstop := htaken payloadText targetText hsplit
    rw [← comma_trim, hpayload, htarget] at hstop
    have hfield : IsField policyTarget.toList := by
      rw [← htarget]
      exact ⟨Text.trimmed_trim _ _, comma_trim.not.2 hcomma⟩
    have htrimmed : trim payload.toList = payload.toList := by
      rw [← hpayload]
      exact Text.trim_trim _ _
    have hfields : parsed.fields = payload.toList :: policyTarget.toList :: popped := by
      cases h
      simp only [ParsedRule.fields, Option.toList_some, List.map_cons, List.map_nil,
        List.cons_append, List.nil_append, map_toList_ofList]
    refine ⟨by cases h; rfl, ?_, fun rule => ?_⟩
    · rw [hfields, join_regex, ← hpayload, ← htarget]
      refine List.Sublist.trans ?_ hsub
      have hhead : List.Sublist (trim payloadText ++ ',' :: trim targetText)
          (payloadText ++ ',' :: targetText) :=
        (Text.trim_sublist _ _).append ((Text.trim_sublist _ _).cons_cons ',')
      cases popped with
      | nil => simpa using hhead
      | cons next rest =>
        rw [join_cons_cons, join_cons_cons]
        exact hhead.append (List.Sublist.refl _)
    · rw [hfields, parseRegexRule_join htrimmed hpayloadNe hfield htargetNe hstop hpopped]
      cases h
      rfl

theorem LogicalScan.run_eq_some {scan : LogicalScan} (h : scan.run text = some n) :
    ∃ inner rest, text = inner ++ ')' :: rest ∧ n = inner.length + 1 ∧
      ∀ other, scan.run (inner ++ ')' :: other) = some n := by
  induction text generalizing scan n with
  | nil => cases h
  | cons character text ih =>
    cases hstep : scan.step character with
    | refuse =>
      rw [run, hstep] at h
      cases h
    | goOn next =>
      rw [run, hstep] at h
      obtain ⟨m, hm, rfl⟩ := Option.map_eq_some_iff.1 h
      obtain ⟨inner, rest, rfl, rfl, hother⟩ := ih hm
      refine ⟨character :: inner, rest, rfl, rfl, fun other => ?_⟩
      rw [List.cons_append, run, hstep]
      exact Option.map_eq_some_iff.2 ⟨_, hother other, rfl⟩
    | finish =>
      have hclose : character = ')' := by
        unfold step at hstep
        repeat' split at hstep
        all_goals first
          | assumption
          | cases hstep
      rw [run, hstep] at h
      cases h
      subst hclose
      exact ⟨[], text, rfl, rfl, fun other => by rw [List.nil_append, run, hstep]⟩

theorem parseLogicalRule_join {payload policyTarget : String} {inner : List Char}
    {params : List (List Char)} (hstart : payload.toList.dropWhile isWhitespace = payload.toList)
    (hpayload : payload.toList = inner ++ [')'])
    (hend : ∀ other, logicalPayloadEnd (inner ++ ')' :: other) = some (inner.length + 1))
    (htarget : IsField policyTarget.toList) (htargetNe : policyTarget.toList ≠ [])
    (hparams : ∀ parameter ∈ params, IsField parameter) (rule : String) :
    parseLogicalRule rule ruleType (join ',' (payload.toList :: policyTarget.toList :: params)) =
      .ok ⟨rule, ruleType, some payload, policyTarget, params.map .ofList⟩ := by
  have hall : ∀ field ∈ policyTarget.toList :: params, IsField field :=
    List.forall_mem_cons.2 ⟨htarget, hparams⟩
  have hfields := fields_join hall (List.cons_ne_nil _ _)
  generalize hjoined : join ',' (policyTarget.toList :: params) = tail at hfields
  have htrim : trim payload.toList = payload.toList := by
    rw [hpayload] at hstart ⊢
    exact (Text.trimmed_snoc hstart (by decide)).trim_eq
  have hremainder : Text.trimStart isWhitespace (payload.toList ++ ',' :: tail) =
      payload.toList ++ ',' :: tail :=
    Text.dropWhile_append_left hstart (by simp [hpayload]) _
  have hlength : inner.length + 1 = payload.toList.length := by simp [hpayload]
  have hfound : logicalPayloadEnd (payload.toList ++ ',' :: tail) = some payload.toList.length := by
    have := hend (',' :: tail)
    rwa [← hlength, hpayload, List.append_assoc]
  have hcomma : Text.trimStart isWhitespace (',' :: tail) = ',' :: tail :=
    List.dropWhile_cons_of_neg (by decide)
  rw [join_cons_cons, hjoined]
  simp only [parseLogicalRule, hremainder, hfound, List.take_left, List.drop_left, htrim, hcomma,
    hfields, List.getElem?_cons_zero, requiredField_some htargetNe, String.ofList_toList]
  rfl

theorem parseLogicalRule_ok (h : parseLogicalRule rule ruleType remainder = .ok parsed) :
    ∃ inner rest tail policyTarget, Text.trimStart isWhitespace remainder = inner ++ ')' :: rest ∧
      (inner ++ [')']).dropWhile isWhitespace = inner ++ [')'] ∧
      (∀ other, logicalPayloadEnd (inner ++ ')' :: other) = some (inner.length + 1)) ∧
      Text.trimStart isWhitespace rest = ',' :: tail ∧
      ((tail.splitOn ',').map trim)[0]? = some policyTarget.toList ∧ policyTarget.toList ≠ [] ∧
      parsed = ⟨rule, ruleType, some (.ofList (inner ++ [')'])), policyTarget,
        (((tail.splitOn ',').map trim).drop 1).map .ofList⟩ := by
  have hidem : (Text.trimStart isWhitespace remainder).dropWhile isWhitespace =
      Text.trimStart isWhitespace remainder := List.dropWhile_idempotent _ _
  unfold parseLogicalRule at h
  dsimp only at h
  cases hend : logicalPayloadEnd (Text.trimStart isWhitespace remainder) with
  | none =>
    rw [hend] at h
    cases h
  | some payloadEnd =>
    obtain ⟨inner, rest, htext, rfl, hother⟩ := LogicalScan.run_eq_some hend
    have htake : (inner ++ ')' :: rest).take (inner.length + 1) = inner ++ [')'] := by
      rw [List.append_cons]
      exact List.take_left' (by simp)
    have hdrop : (inner ++ ')' :: rest).drop (inner.length + 1) = rest := by
      rw [List.append_cons]
      exact List.drop_left' (by simp)
    rw [htext] at hidem hend
    have hstart : (inner ++ [')']).dropWhile isWhitespace = inner ++ [')'] :=
      Text.dropWhile_cut ⟨rest, by rw [List.append_assoc]; rfl⟩ hidem
    have htrim : trim (inner ++ [')']) = inner ++ [')'] :=
      (Text.trimmed_snoc hstart (by decide)).trim_eq
    simp only [htext, hend, htake, hdrop, htrim] at h
    split at h
    · rename_i tail htail
      obtain ⟨policyTarget, htarget, h⟩ := bind_eq_ok.1 h
      obtain ⟨htarget, hne⟩ := requiredField_ok htarget
      cases h
      exact ⟨inner, rest, tail, policyTarget, htext, hstart, hother, htail, htarget, hne, rfl⟩
    · cases h

theorem parseLogicalRule_recovered (h : parseLogicalRule rule ruleType remainder = .ok parsed) :
    Recovered parseLogicalRule ruleType remainder parsed := by
  obtain ⟨inner, rest, tail, policyTarget, htext, hstart, hother, htail, htarget, hne, rfl⟩ :=
    parseLogicalRule_ok h
  have hall := eq_cons_drop htarget
  have hsub := fields_sublist tail
  have hisField : ∀ field ∈ (tail.splitOn ',').map trim, IsField field :=
    fun _ => isField_of_split
  rw [List.drop_zero, Nat.zero_add] at hall
  rw [hall] at hisField hsub
  obtain ⟨hfield, hparams⟩ := List.forall_mem_cons.1 hisField
  have hfields : ParsedRule.fields ⟨rule, ruleType, some (.ofList (inner ++ [')'])), policyTarget,
      (((tail.splitOn ',').map trim).drop 1).map .ofList⟩ =
      (String.ofList (inner ++ [')'])).toList :: policyTarget.toList ::
        ((tail.splitOn ',').map trim).drop 1 := by
    simp only [ParsedRule.fields, Option.toList_some, List.map_cons, List.map_nil,
      List.cons_append, List.nil_append, map_toList_ofList]
  refine ⟨rfl, ?_, fun rule => ?_⟩
  · have hremainder : List.Sublist (inner ++ ')' :: rest) remainder :=
      htext ▸ (List.dropWhile_suffix _).sublist
    have hrest : List.Sublist (',' :: tail) rest := htail ▸ (List.dropWhile_suffix _).sublist
    rw [hfields, join_cons_cons, String.toList_ofList]
    refine List.Sublist.trans ?_ hremainder
    rw [List.append_cons inner ')' rest]
    exact (List.Sublist.refl _).append ((hsub.cons_cons ',').trans hrest)
  · rw [hfields, parseLogicalRule_join (by rwa [String.toList_ofList]) (String.toList_ofList)
      hother hfield hne hparams]

theorem parseShape_recovered (h : parseShape rule ruleType remainder = .ok parsed) :
    Recovered parseShape ruleType remainder parsed := by
  unfold parseShape at h
  have hshape : ∀ parse, (∀ rule text, parseShape rule ruleType text = parse rule ruleType text) →
      Recovered parse ruleType remainder parsed →
        Recovered parseShape ruleType remainder parsed := by
    intro parse heq hrecovered
    exact ⟨hrecovered.1, hrecovered.2.1, fun rule => (heq ..).trans (hrecovered.2.2 rule)⟩
  cases hcase : ruleType.shape with
  | withoutPayload =>
    rw [hcase] at h
    exact hshape _ (fun _ _ => by rw [parseShape, hcase]) (parseRuleWithoutPayload_recovered h)
  | logical =>
    rw [hcase] at h
    exact hshape _ (fun _ _ => by rw [parseShape, hcase]) (parseLogicalRule_recovered h)
  | regex =>
    rw [hcase] at h
    exact hshape _ (fun _ _ => by rw [parseShape, hcase]) (parseRegexRule_recovered h)
  | standard =>
    rw [hcase] at h
    exact hshape _ (fun _ _ => by rw [parseShape, hcase]) (parseStandardRule_recovered h)

theorem parseShape_nil (rule : String) (ruleType : RuleType) (parsed : ParsedRule) :
    parseShape rule ruleType [] ≠ .ok parsed := by
  intro h
  unfold parseShape at h
  split at h
  · cases h
  · cases h
  · simp only [parseRegexRule, popParams_of_taken paramsTaken_nil] at h
    cases h
  · cases h

theorem isField_asStr (ruleType : RuleType) : IsField ruleType.asStr.toList := by
  have hall : trim ruleType.asStr.toList = ruleType.asStr.toList ∧ ',' ∉ ruleType.asStr.toList := by
    cases ruleType <;> decide +kernel
  exact ⟨hall.1 ▸ Text.trimmed_trim _ _, hall.2⟩

theorem ParsedRule.toList_render (parsed : ParsedRule) :
    parsed.render.toList = parsed.ruleType.asStr.toList ++ ',' :: join ',' parsed.fields := by
  rw [render, String.toList_ofList]
  cases hfields : parsed.fields with
  | nil => exact absurd hfields parsed.fields_ne_nil
  | cons first rest => rw [join_cons_cons]

/-- The canonical text of a parsed rule is no longer than the rule and parses to the same parts. -/
theorem rendered_rule_parses (rule : String) (parsed : ParsedRule)
    (h : parseRule rule = .ok parsed) :
    parseRule parsed.render = .ok { parsed with original := parsed.render } ∧
      parsed.render.utf8ByteSize ≤ rule.utf8ByteSize := by
  unfold parseRule at h
  generalize hparts : (splitOnce ',' rule.toList).getD (rule.toList, []) = parts at h
  obtain ⟨typeText, remainder⟩ := parts
  obtain ⟨ruleType, htype, hshape⟩ := bind_eq_ok.1 h
  obtain ⟨rfl, hsub, hagain⟩ := parseShape_recovered hshape
  have htypeText : trim typeText = parsed.ruleType.asStr.toList := by
    rw [← RuleType.eq_asStr htype, String.toList_ofList]
  have hfield := isField_asStr parsed.ruleType
  constructor
  · have hsplit : splitOnce ',' parsed.render.toList =
        some (parsed.ruleType.asStr.toList, join ',' parsed.fields) := by
      rw [parsed.toList_render]
      exact Text.splitOnce_append hfield.comma _
    have htrim : trim parsed.ruleType.asStr.toList = parsed.ruleType.asStr.toList :=
      hfield.trimmed.trim_eq
    simp only [parseRule, hsplit, Option.getD_some, htrim, String.ofList_toList,
      RuleType.parse_asStr]
    exact hagain _
  · have hwhole : List.Sublist parsed.render.toList rule.toList := by
      cases hsplit : splitOnce ',' rule.toList with
      | none =>
        rw [hsplit] at hparts
        cases hparts
        exact absurd hshape (parseShape_nil rule parsed.ruleType parsed)
      | some found =>
        rw [hsplit, Option.getD_some] at hparts
        rw [hparts] at hsplit
        rw [(Text.splitOnce_eq_some hsplit).1, parsed.toList_render, ← htypeText]
        exact (Text.trim_sublist _ _).append (hsub.cons_cons ',')
    have hle := Text.utf8ByteSize_le_of_sublist hwhole
    rwa [String.ofList_toList, String.ofList_toList] at hle

def spacedRule : ParsedRule where
  original := " AND , ((DOMAIN,a),(NETWORK,udp)) , DIRECT , src"
  ruleType := .and
  payload := "((DOMAIN,a),(NETWORK,udp))"
  policyTarget := "DIRECT"
  params := ["src"]

theorem rendered_rule_parses_spaced : parseRule spacedRule.original = .ok spacedRule ∧
      spacedRule.render = "AND,((DOMAIN,a),(NETWORK,udp)),DIRECT,src" ∧
      parseRule spacedRule.render = .ok { spacedRule with original := spacedRule.render } :=
  ⟨by decide +kernel, by decide +kernel,
    (rendered_rule_parses spacedRule.original spacedRule (by decide +kernel)).1⟩

end Ratash
