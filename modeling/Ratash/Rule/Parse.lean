import Ratash.Domain
import Ratash.Text.Split

/-!
A rule is its type, a payload unless it matches everything, a policy target and parameters, with
commas between them.
-/

namespace Ratash

open Text (splitOnce rsplitOnce join)

def isWhitespace (c : Char) : Bool :=
  let n := c.toNat
  9 ≤ n && n ≤ 13 || n == 0x20 || n == 0x85 || n == 0xa0 || n == 0x1680 ||
    0x2000 ≤ n && n ≤ 0x200a || n == 0x2028 || n == 0x2029 || n == 0x202f || n == 0x205f ||
    n == 0x3000

abbrev trim (text : List Char) : List Char := Text.trim isWhitespace text

inductive RuleType where
  | and
  | domain
  | domainKeyword
  | domainRegex
  | domainSuffix
  | domainWildcard
  | dscp
  | dstPort
  | geoIp
  | geosite
  | inName
  | inPort
  | inType
  | inUser
  | ipAsn
  | ipCidr
  | ipCidr6
  | ipSuffix
  | matches
  | network
  | not
  | or
  | processName
  | processNameRegex
  | processNameWildcard
  | processPath
  | processPathRegex
  | processPathWildcard
  | rematchName
  | ruleSet
  | srcGeoIp
  | srcIpAsn
  | srcIpCidr
  | srcIpSuffix
  | srcPort
  | subRule
  | uid
deriving DecidableEq

inductive RuleParseError where
  | missingRuleType
  | unsupportedRuleType (ruleType : String)
  | missingPayload (ruleType : RuleType)
  | missingPolicyTarget (ruleType : RuleType)
  | invalidLogicalPayload (ruleType : RuleType)
deriving DecidableEq

namespace RuleType

def parse (value : String) : Except RuleParseError RuleType :=
  match value with
  | "AND" => .ok .and
  | "DOMAIN" => .ok .domain
  | "DOMAIN-KEYWORD" => .ok .domainKeyword
  | "DOMAIN-REGEX" => .ok .domainRegex
  | "DOMAIN-SUFFIX" => .ok .domainSuffix
  | "DOMAIN-WILDCARD" => .ok .domainWildcard
  | "DSCP" => .ok .dscp
  | "DST-PORT" => .ok .dstPort
  | "GEOIP" => .ok .geoIp
  | "GEOSITE" => .ok .geosite
  | "IN-NAME" => .ok .inName
  | "IN-PORT" => .ok .inPort
  | "IN-TYPE" => .ok .inType
  | "IN-USER" => .ok .inUser
  | "IP-ASN" => .ok .ipAsn
  | "IP-CIDR" => .ok .ipCidr
  | "IP-CIDR6" => .ok .ipCidr6
  | "IP-SUFFIX" => .ok .ipSuffix
  | "MATCH" => .ok .matches
  | "NETWORK" => .ok .network
  | "NOT" => .ok .not
  | "OR" => .ok .or
  | "PROCESS-NAME" => .ok .processName
  | "PROCESS-NAME-REGEX" => .ok .processNameRegex
  | "PROCESS-NAME-WILDCARD" => .ok .processNameWildcard
  | "PROCESS-PATH" => .ok .processPath
  | "PROCESS-PATH-REGEX" => .ok .processPathRegex
  | "PROCESS-PATH-WILDCARD" => .ok .processPathWildcard
  | "REMATCH-NAME" => .ok .rematchName
  | "RULE-SET" => .ok .ruleSet
  | "SRC-GEOIP" => .ok .srcGeoIp
  | "SRC-IP-ASN" => .ok .srcIpAsn
  | "SRC-IP-CIDR" => .ok .srcIpCidr
  | "SRC-IP-SUFFIX" => .ok .srcIpSuffix
  | "SRC-PORT" => .ok .srcPort
  | "SUB-RULE" => .ok .subRule
  | "UID" => .ok .uid
  | "" => .error .missingRuleType
  | other => .error (.unsupportedRuleType other)

def asStr : RuleType → String
  | .and => "AND"
  | .domain => "DOMAIN"
  | .domainKeyword => "DOMAIN-KEYWORD"
  | .domainRegex => "DOMAIN-REGEX"
  | .domainSuffix => "DOMAIN-SUFFIX"
  | .domainWildcard => "DOMAIN-WILDCARD"
  | .dscp => "DSCP"
  | .dstPort => "DST-PORT"
  | .geoIp => "GEOIP"
  | .geosite => "GEOSITE"
  | .inName => "IN-NAME"
  | .inPort => "IN-PORT"
  | .inType => "IN-TYPE"
  | .inUser => "IN-USER"
  | .ipAsn => "IP-ASN"
  | .ipCidr => "IP-CIDR"
  | .ipCidr6 => "IP-CIDR6"
  | .ipSuffix => "IP-SUFFIX"
  | .matches => "MATCH"
  | .network => "NETWORK"
  | .not => "NOT"
  | .or => "OR"
  | .processName => "PROCESS-NAME"
  | .processNameRegex => "PROCESS-NAME-REGEX"
  | .processNameWildcard => "PROCESS-NAME-WILDCARD"
  | .processPath => "PROCESS-PATH"
  | .processPathRegex => "PROCESS-PATH-REGEX"
  | .processPathWildcard => "PROCESS-PATH-WILDCARD"
  | .rematchName => "REMATCH-NAME"
  | .ruleSet => "RULE-SET"
  | .srcGeoIp => "SRC-GEOIP"
  | .srcIpAsn => "SRC-IP-ASN"
  | .srcIpCidr => "SRC-IP-CIDR"
  | .srcIpSuffix => "SRC-IP-SUFFIX"
  | .srcPort => "SRC-PORT"
  | .subRule => "SUB-RULE"
  | .uid => "UID"

theorem parse_asStr (ruleType : RuleType) : parse ruleType.asStr = .ok ruleType := by
  cases ruleType <;> rfl

theorem eq_asStr (h : parse value = .ok ruleType) : value = ruleType.asStr := by
  unfold parse at h
  split at h <;> cases h <;> rfl

end RuleType

structure ParsedRule where
  original : String
  ruleType : RuleType
  payload : Option String
  policyTarget : String
  params : List String
deriving DecidableEq

def isRuleParameter (value : List Char) : Bool :=
  value = "no-resolve".toList || value = "src".toList

def requiredField (value : Option (List Char)) (error : RuleParseError) :
    Except RuleParseError String :=
  match value with
  | some value => if value = [] then .error error else .ok (.ofList value)
  | none => .error error

/-- The loop of `parse_regex_rule`: parameters are taken off the end, as long as a payload and a
target are left. -/
def popParams (ruleAndTarget : List Char) (params : List (List Char)) :
    List Char × List (List Char) :=
  match _h : rsplitOnce ',' ruleAndTarget with
  | none => (ruleAndTarget, params)
  | some (head, tail) =>
    let parameter := trim tail
    if isRuleParameter parameter = false ∨ ',' ∉ head then (ruleAndTarget, params)
    else popParams head (parameter :: params)
termination_by ruleAndTarget.length
decreasing_by exact Text.length_rsplitOnce _h

def parseRegexRule (rule : String) (ruleType : RuleType) (remainder : List Char) :
    Except RuleParseError ParsedRule :=
  let (ruleAndTarget, params) := popParams remainder []
  match rsplitOnce ',' ruleAndTarget with
  | none => .error (.missingPolicyTarget ruleType)
  | some (payload, policyTarget) => do
    let payload ← requiredField (some (trim payload)) (.missingPayload ruleType)
    let policyTarget ← requiredField (some (trim policyTarget)) (.missingPolicyTarget ruleType)
    return ⟨rule, ruleType, some payload, policyTarget, params.map .ofList⟩

def parseRuleWithoutPayload (rule : String) (ruleType : RuleType) (remainder : List Char) :
    Except RuleParseError ParsedRule := do
  let fields := (remainder.splitOn ',').map trim
  let policyTarget ← requiredField fields[0]? (.missingPolicyTarget ruleType)
  return ⟨rule, ruleType, none, policyTarget, (fields.drop 1).map .ofList⟩

def parseStandardRule (rule : String) (ruleType : RuleType) (remainder : List Char) :
    Except RuleParseError ParsedRule := do
  let fields := (remainder.splitOn ',').map trim
  let payload ← requiredField fields[0]? (.missingPayload ruleType)
  let policyTarget ← requiredField fields[1]? (.missingPolicyTarget ruleType)
  return ⟨rule, ruleType, some payload, policyTarget, (fields.drop 2).map .ofList⟩

structure LogicalScan where
  depth : Nat
  escaped : Bool
  inCharacterClass : Bool
deriving DecidableEq

/-- What `logical_payload_end` does with a character. -/
inductive ScanStep where
  | goOn (scan : LogicalScan)
  | finish
  | refuse
deriving DecidableEq

namespace LogicalScan

def step (scan : LogicalScan) (character : Char) : ScanStep :=
  if scan.escaped then .goOn { scan with escaped := false }
  else if character = '\\' then .goOn { scan with escaped := true }
  else if character = '[' then .goOn { scan with inCharacterClass := true }
  else if character = ']' then .goOn { scan with inCharacterClass := false }
  else if scan.inCharacterClass then .goOn scan
  else if character = '(' then .goOn { scan with depth := scan.depth + 1 }
  else if character = ')' then
    if scan.depth = 0 then .refuse
    else if scan.depth - 1 = 0 then .finish
    else .goOn { scan with depth := scan.depth - 1 }
  else if scan.depth = 0 && !isWhitespace character then .refuse
  else .goOn scan

def run : LogicalScan → List Char → Option Nat
  | _, [] => none
  | scan, character :: text =>
    match scan.step character with
    | .goOn scan => (run scan text).map (· + 1)
    | .finish => some 1
    | .refuse => none

end LogicalScan

/-- `logical_payload_end`, counted in characters -/
def logicalPayloadEnd (value : List Char) : Option Nat := LogicalScan.run ⟨0, false, false⟩ value

def parseLogicalRule (rule : String) (ruleType : RuleType) (remainder : List Char) :
    Except RuleParseError ParsedRule :=
  let remainder := Text.trimStart isWhitespace remainder
  match logicalPayloadEnd remainder with
  | none => .error (.invalidLogicalPayload ruleType)
  | some payloadEnd =>
    let payload := trim (remainder.take payloadEnd)
    match Text.trimStart isWhitespace (remainder.drop payloadEnd) with
    | ',' :: tail => do
      let fields := (tail.splitOn ',').map trim
      let policyTarget ← requiredField fields[0]? (.missingPolicyTarget ruleType)
      return ⟨rule, ruleType, some (.ofList payload), policyTarget, (fields.drop 1).map .ofList⟩
    | _ => .error (.missingPolicyTarget ruleType)

inductive RuleShape where
  | withoutPayload
  | logical
  | regex
  | standard
deriving DecidableEq

def RuleType.shape : RuleType → RuleShape
  | .matches => .withoutPayload
  | .and | .not | .or | .subRule => .logical
  | .domainRegex | .processNameRegex | .processPathRegex => .regex
  | _ => .standard

def parseShape (rule : String) (ruleType : RuleType) (remainder : List Char) :
    Except RuleParseError ParsedRule :=
  match ruleType.shape with
  | .withoutPayload => parseRuleWithoutPayload rule ruleType remainder
  | .logical => parseLogicalRule rule ruleType remainder
  | .regex => parseRegexRule rule ruleType remainder
  | .standard => parseStandardRule rule ruleType remainder

def parseRule (rule : String) : Except RuleParseError ParsedRule := do
  let (typeText, remainder) := (splitOnce ',' rule.toList).getD (rule.toList, [])
  let ruleType ← RuleType.parse (.ofList (trim typeText))
  parseShape rule ruleType remainder

def ParsedRule.fields (rule : ParsedRule) : List (List Char) :=
  rule.payload.toList.map String.toList ++ rule.policyTarget.toList ::
    rule.params.map String.toList

/-- The canonical text of a rule: its parts, joined by commas. -/
def ParsedRule.render (rule : ParsedRule) : String :=
  .ofList (join ',' (rule.ruleType.asStr.toList :: rule.fields))

end Ratash
