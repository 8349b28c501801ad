import Mathlib.Data.List.Infix
import Ratash.Proxy.NodeRecord
import Ratash.Text.Split

/-!
The address of a profile holds secrets: user names, tokens in its path, the values of its query.
-/

namespace Ratash

open Text (splitOnce)

def subscriptionUrlMaxBytes : Nat := 8 * 1024

def isControl (c : Char) : Bool := c.toNat < 0x20 || 0x7f ≤ c.toNat && c.toNat < 0xa0

/-- The parts of a parsed URL, as the `url` crate serialises them, and what it guarantees: hosts
hold no control characters, and paths are percent-encoded. -/
structure Url where
  scheme : String
  username : String
  password : Option String
  host : Option String
  port : Option UInt16
  pathSegments : Option (List String)
  query : Option String
  fragment : Option String
  host_plain : ∀ text ∈ host, text.toList.any isControl = false
  path_encoded : ∀ segments ∈ pathSegments, ∀ segment ∈ segments,
    ∀ c ∈ segment.toList, 0x21 ≤ c.toNat ∧ c.toNat < 0x7f
  path_nonempty : ∀ segments ∈ pathSegments, segments ≠ []

/-- An address that `parse` accepts. -/
structure SubscriptionUrl where
  url : Url
  httpScheme : url.scheme = "http" ∨ url.scheme = "https"
  hasHost : url.host.isSome

/-- `SubscriptionUrl::parse` over the parser of the `url` crate; `none` is
`InvalidSubscriptionUrl`. -/
def SubscriptionUrl.parse (urlParse : String → Option Url) (value : String) :
    Option SubscriptionUrl :=
  if subscriptionUrlMaxBytes < value.utf8ByteSize then none
  else
    match urlParse value with
    | none => none
    | some url =>
      if h : (url.scheme = "http" ∨ url.scheme = "https") ∧ url.host.isSome then
        some ⟨url, h.1, h.2⟩
      else none

def hexDigit (byte : UInt8) : Option UInt8 :=
  if 0x30 ≤ byte ∧ byte ≤ 0x39 then some (byte - 0x30)
  else if 0x41 ≤ byte ∧ byte ≤ 0x46 then some (byte - 0x41 + 10)
  else if 0x61 ≤ byte ∧ byte ≤ 0x66 then some (byte - 0x61 + 10)
  else none

/-- `percent_decode_str` -/
def percentDecode : Bytes → Bytes
  | 0x25 :: high :: low :: rest =>
    match hexDigit high, hexDigit low with
    | some high, some low => (high * 16 + low) :: percentDecode rest
    | _, _ => 0x25 :: percentDecode (high :: low :: rest)
  | byte :: rest => byte :: percentDecode rest
  | [] => []

def isContinuation (byte : UInt8) : Bool := 0x80 ≤ byte && byte ≤ 0xbf

/-- The bytes that may follow the first one of a sequence of three or four. -/
def isSecond (first byte : UInt8) : Bool :=
  if first = 0xe0 then 0xa0 ≤ byte && byte ≤ 0xbf
  else if first = 0xed then 0x80 ≤ byte && byte ≤ 0x9f
  else if first = 0xf0 then 0x90 ≤ byte && byte ≤ 0xbf
  else if first = 0xf4 then 0x80 ≤ byte && byte ≤ 0x8f
  else isContinuation byte

def replacementCharacter : Char := '�'

/-- `decode_utf8_lossy`: the longest start of a character that is not completed is replaced as a
whole. -/
def decodeUtf8Lossy : Bytes → List Char
  | [] => []
  | a :: rest =>
    if a < 0x80 then .ofNat a.toNat :: decodeUtf8Lossy rest
    else if 0xc2 ≤ a ∧ a ≤ 0xdf then
      match rest with
      | b :: rest =>
        if isContinuation b then
          .ofNat ((a.toNat - 0xc0) * 64 + (b.toNat - 0x80)) :: decodeUtf8Lossy rest
        else replacementCharacter :: decodeUtf8Lossy (b :: rest)
      | [] => [replacementCharacter]
    else if 0xe0 ≤ a ∧ a ≤ 0xef then
      match rest with
      | b :: c :: rest =>
        if !isSecond a b then replacementCharacter :: decodeUtf8Lossy (b :: c :: rest)
        else if !isContinuation c then replacementCharacter :: decodeUtf8Lossy (c :: rest)
        else
          .ofNat ((a.toNat - 0xe0) * 4096 + (b.toNat - 0x80) * 64 + (c.toNat - 0x80)) ::
            decodeUtf8Lossy rest
      | [b] =>
        if isSecond a b then [replacementCharacter]
        else replacementCharacter :: decodeUtf8Lossy [b]
      | [] => [replacementCharacter]
    else if 0xf0 ≤ a ∧ a ≤ 0xf4 then
      match rest with
      | b :: c :: d :: rest =>
        if !isSecond a b then replacementCharacter :: decodeUtf8Lossy (b :: c :: d :: rest)
        else if !isContinuation c then replacementCharacter :: decodeUtf8Lossy (c :: d :: rest)
        else if !isContinuation d then replacementCharacter :: decodeUtf8Lossy (d :: rest)
        else
          .ofNat ((a.toNat - 0xf0) * 262144 + (b.toNat - 0x80) * 4096 + (c.toNat - 0x80) * 64 +
            (d.toNat - 0x80)) :: decodeUtf8Lossy rest
      | [b, c] =>
        if !isSecond a b then replacementCharacter :: decodeUtf8Lossy [b, c]
        else if !isContinuation c then replacementCharacter :: decodeUtf8Lossy [c]
        else [replacementCharacter]
      | [b] =>
        if isSecond a b then [replacementCharacter]
        else replacementCharacter :: decodeUtf8Lossy [b]
      | [] => [replacementCharacter]
    else replacementCharacter :: decodeUtf8Lossy rest

def isAsciiUppercase (byte : UInt8) : Bool := 0x41 ≤ byte && byte ≤ 0x5a

def isAsciiLowercase (byte : UInt8) : Bool := 0x61 ≤ byte && byte ≤ 0x7a

def isAsciiDigit (byte : UInt8) : Bool := 0x30 ≤ byte && byte ≤ 0x39

def isAsciiAlphabetic (byte : UInt8) : Bool := isAsciiUppercase byte || isAsciiLowercase byte

def isAsciiAlphanumeric (byte : UInt8) : Bool := isAsciiAlphabetic byte || isAsciiDigit byte

def toAsciiLowercase (text : Bytes) : Bytes :=
  text.map fun byte => if isAsciiUppercase byte then byte + 0x20 else byte

def stripSuffix [DecidableEq α] (text suffix : List α) : Option (List α) :=
  if suffix <:+ text then some (text.take (text.length - suffix.length)) else none

def looksLikeEncodedSecret (value : Bytes) : Bool :=
  let value := ([".yaml", ".yml", ".txt"].findSome? fun suffix =>
    stripSuffix value (utf8 suffix)).getD value
  let jwtParts := value.splitOn (0x2e : UInt8)
  if jwtParts.length = 3 ∧ jwtParts.all fun part =>
      8 ≤ part.length && part.all fun byte =>
        isAsciiAlphanumeric byte || byte == 0x2d || byte == 0x5f then true
  else if value.length < 24 ∨ !value.all fun byte =>
      isAsciiAlphanumeric byte || byte == 0x2d || byte == 0x5f || byte == 0x2b || byte == 0x3d ||
        byte == 0x2e then false
  else
    let hasAlpha := value.any isAsciiAlphabetic
    let hasDigit := value.any isAsciiDigit
    let hasUpper := value.any isAsciiUppercase
    let hasLower := value.any isAsciiLowercase
    hasAlpha && hasDigit || hasUpper && hasLower || value.contains (0x3d : UInt8)

def isTokenLikePathSegment (segment : String) : Bool :=
  let decoded := utf8 (String.ofList (decodeUtf8Lossy (percentDecode (utf8 segment))))
  let normalized := toAsciiLowercase decoded
  (["token", "secret", "credential", "auth", "api-key", "apikey"].any fun marker =>
    decide (utf8 marker <:+: normalized)) || looksLikeEncodedSecret decoded

/-- `origin().ascii_serialization()` of an address with a host; the port of the scheme itself is not
kept by the parser. -/
def Url.origin (url : Url) : String :=
  url.scheme ++ "://" ++ url.host.getD "" ++
    match url.port with
    | none => ""
    | some port => ":" ++ toString port.toNat

/-- A pair of the query: the text before its first `=`, and whether it has one. -/
def queryKey (pair : List Char) : List Char × Bool :=
  match splitOnce '=' pair with
  | none => (pair, false)
  | some (key, _) => (key, true)

def redactSegment (segment : String) : String :=
  "/" ++ if isTokenLikePathSegment segment then "[redacted]" else segment

def redactPair (pair : List Char) : String :=
  let (key, hasValue) := queryKey pair
  (if hasValue && !isTokenLikePathSegment (String.ofList key) then String.ofList key
    else "[redacted]") ++ "=[redacted]"

/-- `query.split('&')` -/
def queryPairs (query : String) : List (List Char) := query.toList.splitOn '&'

def SubscriptionUrl.redacted (subscription : SubscriptionUrl) : String :=
  let url := subscription.url
  url.origin ++ String.join ((url.pathSegments.getD []).map redactSegment) ++
    match url.query with
    | none => ""
    | some query => "?" ++ "&".intercalate ((queryPairs query).map redactPair)

def Url.pairs (url : Url) : List (List Char) :=
  match url.query with
  | none => []
  | some query => queryPairs query

def Url.queryKeys (url : Url) : List (List Char) := url.pairs.map fun pair => (queryKey pair).1

def SegmentsAlike (s t : String) : Prop :=
  s = t ∨ isTokenLikePathSegment s = true ∧ isTokenLikePathSegment t = true

/-- The addresses have the same scheme, host and port, and the same path but for token-like
segments. -/
structure Url.AlikeUpToQuery (a b : Url) : Prop where
  scheme : a.scheme = b.scheme
  host : a.host = b.host
  port : a.port = b.port
  path : List.Forall₂ SegmentsAlike (a.pathSegments.getD []) (b.pathSegments.getD [])

/-- Both pairs give a value, under one key or under token-like keys, or neither does. -/
def PairsAlike (p q : List Char) : Prop :=
  (queryKey p).2 = (queryKey q).2 ∧
    ((queryKey p).2 = true →
      SegmentsAlike (String.ofList (queryKey p).1) (String.ofList (queryKey q).1))

theorem SegmentsAlike.redactSegment_eq (h : SegmentsAlike s t) :
    redactSegment s = redactSegment t := by
  rcases h with rfl | ⟨hs, ht⟩
  · rfl
  · simp only [redactSegment, hs, ht, if_true]

theorem PairsAlike.redactPair_eq (h : PairsAlike p q) : redactPair p = redactPair q := by
  obtain ⟨hvalue, hkey⟩ := h
  unfold redactPair
  dsimp only
  rw [← hvalue]
  by_cases hp : (queryKey p).2 = true
  · rcases hkey hp with heq | ⟨hpt, hqt⟩
    · rw [heq]
    · simp only [hpt, hqt, Bool.not_true, Bool.and_false, Bool.false_eq_true, if_false]
  · simp only [hp, Bool.false_and, Bool.false_eq_true, if_false]

theorem map_eq_of_forall₂ {R : α → α → Prop} {f : α → β} (h : List.Forall₂ R l₁ l₂)
    (hf : ∀ x y, R x y → f x = f y) : l₁.map f = l₂.map f := by
  rw [← List.forall₂_eq_eq_eq, List.forall₂_map_left_iff, List.forall₂_map_right_iff]
  exact h.imp hf

theorem Url.AlikeUpToQuery.origin_eq (h : AlikeUpToQuery a b) : a.origin = b.origin := by
  rw [origin, origin, h.scheme, h.host, h.port]

theorem queryPairs_ne_nil (query : String) : queryPairs query ≠ [] :=
  List.splitOn_ne_nil '&' query.toList

/-- User info, fragments, query values and whatever is token-like do not show. -/
theorem SubscriptionUrl.redacted_eq_of_alike (a b : SubscriptionUrl)
    (h : a.url.AlikeUpToQuery b.url) (hquery : List.Forall₂ PairsAlike a.url.pairs b.url.pairs) :
    a.redacted = b.redacted := by
  have hpath := map_eq_of_forall₂ h.path fun _ _ hst => hst.redactSegment_eq
  have hpairs := map_eq_of_forall₂ hquery fun _ _ hpq => hpq.redactPair_eq
  unfold redacted
  dsimp only
  rw [h.origin_eq, hpath]
  unfold Url.pairs at hpairs hquery
  rcases ha : a.url.query with _ | query <;> rcases hb : b.url.query with _ | query'
  · rfl
  · rw [ha, hb] at hquery
    exact absurd (List.forall₂_nil_left_iff.1 hquery) (queryPairs_ne_nil query')
  · rw [ha, hb] at hquery
    exact absurd (List.forall₂_nil_right_iff.1 hquery) (queryPairs_ne_nil query)
  · rw [ha, hb] at hpairs
    dsimp only at hpairs ⊢
    rw [hpairs]

def SubscriptionUrl.ofHost (host segment : String) (hplain : host.toList.any isControl = false)
    (hencoded : ∀ c ∈ segment.toList, 0x21 ≤ c.toNat ∧ c.toNat < 0x7f)
    (query fragment : Option String) : SubscriptionUrl where
  url :=
    { scheme := "https", username := "", password := none, host := some host,
      port := none, pathSegments := some [segment], query, fragment
      host_plain := fun _ htext => Option.some.inj htext ▸ hplain
      path_encoded := fun _ hsegments _ hsegment =>
        List.mem_singleton.1 (Option.some.inj hsegments ▸ hsegment) ▸ hencoded
      path_nonempty := fun _ hsegments hnil =>
        List.cons_ne_nil _ _ ((Option.some.inj hsegments).trans hnil) }
  httpScheme := .inr rfl
  hasHost := rfl

theorem example_host_plain : "example.com".toList.any isControl = false := by decide

theorem example_segment_encoded : ∀ c ∈ "sub".toList, 0x21 ≤ c.toNat ∧ c.toNat < 0x7f := by simp

def exampleUrl (query : String) (fragment : Option String) : SubscriptionUrl :=
  .ofHost "example.com" "sub" example_host_plain example_segment_encoded (some query) fragment

theorem SubscriptionUrl.redacted_eq_of_alike_example : (exampleUrl "flag&name=a" none).redacted =
      (exampleUrl "other&name=b" (some "fragment")).redacted := by
  refine redacted_eq_of_alike _ _ ⟨rfl, rfl, rfl, ?_⟩ ?_
  · exact .cons (.inl rfl) .nil
  · have hflag : PairsAlike "flag".toList "other".toList :=
      ⟨by decide +kernel, fun h => absurd h (by decide +kernel)⟩
    have hname : PairsAlike "name=a".toList "name=b".toList :=
      ⟨by decide +kernel, fun _ => .inl (by decide +kernel)⟩
    have hpairs : List.Forall₂ PairsAlike ["flag".toList, "name=a".toList]
        ["other".toList, "name=b".toList] := .cons hflag (.cons hname .nil)
    have hleft : (exampleUrl "flag&name=a" none).url.pairs =
        ["flag".toList, "name=a".toList] := by decide +kernel
    have hright : (exampleUrl "other&name=b" (some "fragment")).url.pairs =
        ["other".toList, "name=b".toList] := by decide +kernel
    rw [hleft, hright]
    exact hpairs

/-- A query of one key shows the key if a value follows, and hides it if none does. -/
theorem SubscriptionUrl.redacted_tells_bare_key :
    (exampleUrl "abc" none).url.AlikeUpToQuery (exampleUrl "abc=x" none).url ∧
    (exampleUrl "abc" none).url.queryKeys = (exampleUrl "abc=x" none).url.queryKeys ∧
    (exampleUrl "abc" none).redacted = "https://example.com/sub?[redacted]=[redacted]" ∧
    (exampleUrl "abc=x" none).redacted = "https://example.com/sub?abc=[redacted]" := by
  refine ⟨⟨rfl, rfl, rfl, .cons (.inl rfl) .nil⟩, ?_, ?_, ?_⟩ <;> decide +kernel

end Ratash
