import Std.Data.ExtTreeSet
import Ratash.Generation.Manifest

/-! The names of proxies are not unique across the Core and its providers. -/

namespace Ratash

open Std (TransOrd LawfulEqOrd TransCmp LawfulEqCmp)

/-- `str::strip_prefix`. -/
def stripStart (start text : String) : Option String :=
  if start.toList <+: text.toList then some (.ofList (text.toList.drop start.toList.length))
  else none

theorem stripStart_append (start text : String) : stripStart start (start ++ text) = some text := by
  simp [stripStart]

/-- A text that goes on with a digest after the given start. -/
def isDigestAfter (start value : String) : Bool :=
  (stripStart start value).any isLowerSha256Hex

/-- SHA-256 as text, which comes from another crate. -/
structure Sha256 where
  hex : Bytes → String
  isLower_hex : ∀ content, isLowerSha256Hex (hex content) = true

theorem Sha256.isDigestAfter_hex (H : Sha256) (start : String) (content : Bytes) :
    isDigestAfter start (start ++ H.hex content) = true := by
  rw [isDigestAfter, stripStart_append, Option.any_some, H.isLower_hex]

/-- `str::as_bytes`. -/
def utf8 (text : String) : Bytes := text.toUTF8.data.toList

theorem length_utf8 (text : String) : (utf8 text).length = text.utf8ByteSize := rfl

theorem utf8_injective : Function.Injective utf8 := by
  intro a b h
  apply String.toByteArray_inj.1
  apply ByteArray.ext
  exact Array.toList_inj.1 h

def toBeBytes (n : UInt64) : Bytes :=
  (List.range 8).reverse.map fun i => .ofNat (n.toNat / 256 ^ i)

theorem length_toBeBytes (n : UInt64) : (toBeBytes n).length = 8 := rfl

theorem eq_of_bytes_eq {a b : Nat} (ha : a < 256 ^ n) (hb : b < 256 ^ n)
    (h : ∀ i < n, a / 256 ^ i % 256 = b / 256 ^ i % 256) : a = b := by
  induction n generalizing a b with
  | zero => omega
  | succ n ih =>
    have hhigh : a / 256 = b / 256 := by
      apply ih (by omega) (by omega)
      intro i hi
      have hi := h (i + 1) (by omega)
      rwa [Nat.pow_succ', ← Nat.div_div_eq_div_mul, ← Nat.div_div_eq_div_mul] at hi
    have hlow := h 0 (by omega)
    omega

theorem toBeBytes_injective : Function.Injective toBeBytes := by
  intro a b h
  apply UInt64.toNat_inj.1
  apply eq_of_bytes_eq a.toNat_lt b.toNat_lt (n := 8)
  intro i hi
  have hbytes := List.map_inj_left.1 h i (by simpa using hi)
  simpa using congrArg UInt8.toNat hbytes

inductive NodeSource where
  | core (proxyName : String)
  | provider (providerName proxyName : String)
deriving DecidableEq

def NodeSource.proxyName : NodeSource → String
  | .core proxyName | .provider _ proxyName => proxyName

def canonicalForm (source : String) (components : List String) : Bytes :=
  utf8 "ratash-node-v1\x00" ++ utf8 source ++ [0] ++
    components.flatMap fun component =>
      toBeBytes (.ofNat component.utf8ByteSize) ++ utf8 component

def NodeSource.canonical : NodeSource → Bytes
  | .core proxyName => canonicalForm "core" [proxyName]
  | .provider providerName proxyName => canonicalForm "provider" [providerName, proxyName]

def NodeSource.Fits : NodeSource → Prop
  | .core proxyName => proxyName.utf8ByteSize < UInt64.size
  | .provider providerName proxyName =>
    providerName.utf8ByteSize < UInt64.size ∧ proxyName.utf8ByteSize < UInt64.size

instance : DecidablePred NodeSource.Fits
  | .core _ => inferInstanceAs (Decidable (_ < _))
  | .provider _ _ => inferInstanceAs (Decidable (_ ∧ _))

theorem sized_append_inj {a b : String} {s t : Bytes} (ha : a.utf8ByteSize < UInt64.size)
    (hb : b.utf8ByteSize < UInt64.size) (h : toBeBytes (.ofNat a.utf8ByteSize) ++ utf8 a ++ s =
      toBeBytes (.ofNat b.utf8ByteSize) ++ utf8 b ++ t) : a = b ∧ s = t := by
  rw [List.append_assoc, List.append_assoc] at h
  obtain ⟨hsizes, h⟩ := List.append_inj h (by simp only [length_toBeBytes])
  have hsize := congrArg UInt64.toNat (toBeBytes_injective hsizes)
  rw [UInt64.toNat_ofNat_of_lt' ha, UInt64.toNat_ofNat_of_lt' hb] at hsize
  obtain ⟨htexts, hrest⟩ := List.append_inj h (by simpa only [length_utf8] using hsize)
  exact ⟨utf8_injective htexts, hrest⟩

theorem core_ne_provider : canonicalForm "core" s ≠ canonicalForm "provider" t := by
  intro h
  simp only [canonicalForm, List.append_assoc] at h
  have hheads := congrArg List.head? (List.append_cancel_left h)
  rw [List.head?_append, List.head?_append,
    show utf8 "core" = [99, 111, 114, 101] by decide +kernel,
    show utf8 "provider" = [112, 114, 111, 118, 105, 100, 101, 114] by decide +kernel] at hheads
  cases hheads

theorem NodeSource.canonical_injective {a b : NodeSource} (ha : a.Fits) (hb : b.Fits)
    (h : a.canonical = b.canonical) : a = b := by
  cases a with
  | core name =>
    cases b with
    | core name' =>
      have h := List.append_cancel_left h
      simp only [List.flatMap_cons, List.flatMap_nil] at h
      obtain ⟨rfl, _⟩ := sized_append_inj ha hb h
      rfl
    | provider providerName name' => exact absurd h core_ne_provider
  | provider providerName name =>
    cases b with
    | core name' => exact absurd h.symm core_ne_provider
    | provider providerName' name' =>
      have h := List.append_cancel_left h
      simp only [List.flatMap_cons, List.flatMap_nil] at h
      obtain ⟨rfl, hnames⟩ := sized_append_inj ha.1 hb.1 h
      obtain ⟨rfl, _⟩ := sized_append_inj ha.2 hb.2 hnames
      rfl

structure NodeRecordId where
  asStr : String
  wellFormed : isDigestAfter "node_v1_" asStr = true
deriving DecidableEq

namespace NodeRecordId

/-- `none` is `InvalidNodeRecordId`. -/
def parse (value : String) : Option NodeRecordId :=
  if h : isDigestAfter "node_v1_" value = true then some ⟨value, h⟩ else none

theorem parse_asStr (id : NodeRecordId) : parse id.asStr = some id :=
  dif_pos id.wellFormed

theorem asStr_injective : Function.Injective asStr := by
  intro a b h
  cases a
  cases b
  cases h
  rfl

instance : Ord NodeRecordId := ⟨compareOn asStr⟩

instance : TransOrd NodeRecordId := inferInstanceAs (TransCmp (compareOn asStr))

instance : LawfulEqOrd NodeRecordId where
  eq_of_compare {a b} h := by
    have hcompare : compare a.asStr b.asStr = .eq := h
    exact asStr_injective (Std.compare_eq_iff_eq.1 hcompare)

/-- `source_aware_node_id` -/
def sourceAware (H : Sha256) (source : String) (components : List String) : NodeRecordId :=
  ⟨"node_v1_" ++ H.hex (canonicalForm source components), H.isDigestAfter_hex ..⟩

/-- `for_core` and `for_provider` -/
def forSource (H : Sha256) : NodeSource → NodeRecordId
  | .core proxyName => sourceAware H "core" [proxyName]
  | .provider providerName proxyName => sourceAware H "provider" [providerName, proxyName]

theorem asStr_forSource (H : Sha256) (source : NodeSource) :
    (forSource H source).asStr = "node_v1_" ++ H.hex source.canonical := by
  cases source <;> rfl

/-- The id of a node tells where it comes from and its name, unless two canonical forms have the
same digest. -/
theorem record_ids_tell_sources (H : Sha256) (a b : NodeSource) (ha : a.Fits) (hb : b.Fits)
    (hdigest : H.hex a.canonical = H.hex b.canonical → a.canonical = b.canonical) :
    (forSource H a = forSource H b ↔ a = b) ∧
    (∀ proxyName providerName proxyName', a = .core proxyName →
      b = .provider providerName proxyName' → forSource H a ≠ forSource H b) ∧
    ∀ id : NodeRecordId, parse id.asStr = some id := by
  have hinjective : forSource H a = forSource H b → a = b := by
    intro heq
    have htexts := congrArg asStr heq
    rw [asStr_forSource, asStr_forSource] at htexts
    exact NodeSource.canonical_injective ha hb (hdigest ((String.append_right_inj _).1 htexts))
  refine ⟨⟨hinjective, congrArg _⟩, ?_, parse_asStr⟩
  intro proxyName providerName proxyName' hcore hprovider heq
  have := hinjective heq
  rw [hcore, hprovider] at this
  cases this

end NodeRecordId

namespace Proxy

/-- A stand-in for SHA-256: the lower halves of the first 64 bytes. It keeps the form of a digest
and, on what the witnesses hash (nodes `A` to `C` of the Core or of the providers `P` and `Q`), that
different sources have different digests. -/
def plainHex (content : Bytes) : String :=
  .ofList ((List.range 64).map fun i => Nat.digitChar ((content.getD i 0).toNat % 16))

theorem isLower_plainHex (content : Bytes) : isLowerSha256Hex (plainHex content) = true := by
  have hdigit : ∀ n < 16, ('0' ≤ n.digitChar && n.digitChar ≤ '9' ||
      'a' ≤ n.digitChar && n.digitChar ≤ 'f') = true := by decide
  rw [isLowerSha256Hex, plainHex, String.toList_ofList, List.length_map, List.length_range,
    List.all_map, decide_eq_true rfl, Bool.true_and, List.all_eq_true]
  intro i _
  exact hdigit _ (Nat.mod_lt _ (by decide))

def plainSha256 : Sha256 := ⟨plainHex, isLower_plainHex⟩

end Proxy

theorem NodeRecordId.record_ids_tell_sources_plain :
    forSource Proxy.plainSha256 (.core "A") ≠ forSource Proxy.plainSha256 (.provider "P" "A") ∧
    parse (forSource Proxy.plainSha256 (.core "A")).asStr =
      some (forSource Proxy.plainSha256 (.core "A")) := by
  have hsize : (1 : Nat) < UInt64.size := by decide
  have h := record_ids_tell_sources Proxy.plainSha256 (.core "A") (.provider "P" "A") hsize
    ⟨hsize, hsize⟩ fun h => absurd h (by decide +kernel)
  exact ⟨h.2.1 _ _ _ rfl rfl, h.2.2 _⟩

structure ProxyGroupId where
  asStr : String
  wellFormed : isDigestAfter "group_v1_" asStr = true
deriving DecidableEq

namespace ProxyGroupId

/-- `none` is `InvalidProxyGroupId`. -/
def parse (value : String) : Option ProxyGroupId :=
  if h : isDigestAfter "group_v1_" value = true then some ⟨value, h⟩ else none

def forName (H : Sha256) (name : String) : ProxyGroupId :=
  ⟨"group_v1_" ++ H.hex (utf8 "ratash-proxy-group-v1\x00" ++ utf8 name), H.isDigestAfter_hex ..⟩

end ProxyGroupId

end Ratash
