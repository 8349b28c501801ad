import Mathlib.Data.Option.Basic
import Ratash.Persistence.Bundle
import Ratash.Text.Decimal

/-!
A generation root holds finished generations, generations being staged, and generations on their way
out.
-/

namespace Ratash

open Text

/-- `{:020}`: every `u64` has at most twenty digits. -/
def paddedGeneration (generation : RuntimeGeneration) : List Char :=
  fixedDecimal 20 generation.toNat

/-- `generation-{:020}` -/
def generationName (generation : RuntimeGeneration) : String :=
  .ofList ("generation-".toList ++ paddedGeneration generation)

variable {D : Type} (X : Codec D)

def temporaryName (generation : RuntimeGeneration) (uuid : BitVec 128) (suffix : String) : String :=
  .ofList (".generation-".toList ++ (paddedGeneration generation ++
    '-' :: ((X.formatUuid uuid).toList ++ suffix.toList)))

/-- `.generation-{:020}-{uuid}.pending` -/
def pendingName (generation : RuntimeGeneration) (uuid : BitVec 128) : String :=
  temporaryName X generation uuid ".pending"

/-- `.generation-{:020}-{uuid}.pruning` -/
def quarantineName (generation : RuntimeGeneration) (uuid : BitVec 128) : String :=
  temporaryName X generation uuid ".pruning"

/-- `parse::<u64>` on ASCII digits. -/
def parseU64 (digits : List Char) : Option UInt64 :=
  if decimalValue digits < UInt64.size then some (.ofNat (decimalValue digits)) else none

def parseRuntimeGenerationName (name : String) : Option RuntimeGeneration := do
  let digits ← name.toList.dropPrefix? "generation-".toList
  guard (digits.length = 20 ∧ digits.all isAsciiDigit)
  let generation ← parseU64 digits
  guard (0 < generation ∧ name = generationName generation)
  return generation

def parseRuntimeQuarantineName (name : String) : Option RuntimeGeneration := do
  let value ← name.toList.dropPrefix? ".generation-".toList
  -- `split_once('-')`
  let generation := value.takeWhile (· ≠ '-')
  let suffix ← (value.dropWhile (· ≠ '-')).tail?
  let uuid ← suffix.dropSuffix? ".pruning".toList
  guard (generation.length = 20 ∧ generation.all isAsciiDigit ∧
    (String.ofList uuid).utf8ByteSize = 36)
  let generation ← parseU64 generation
  let parsedUuid ← X.parseUuid (String.ofList uuid)
  guard (0 < generation ∧ name = quarantineName X generation parsedUuid)
  return generation

theorem of_guard_eq_some {p : Prop} [Decidable p] (h : (guard p : Option Unit) = some u) : p := by
  by_contra hp
  rw [guard, if_neg hp] at h
  cases h

theorem guard_of {p : Prop} [Decidable p] (h : p) : (guard p : Option Unit) = some () :=
  if_pos h

theorem parseRuntimeGenerationName_eq_some (h : parseRuntimeGenerationName name = some g) :
    0 < g ∧ name = generationName g := by
  simp only [parseRuntimeGenerationName, Option.bind_eq_bind, Option.bind_eq_some_iff,
    Option.pure_def, Option.some.injEq] at h
  obtain ⟨digits, _, _, _, generation, _, _, hname, rfl⟩ := h
  exact of_guard_eq_some hname

theorem paddedGeneration_spec (g : RuntimeGeneration) :
    decimalValue (paddedGeneration g) = g.toNat ∧ (paddedGeneration g).length = 20 ∧
      (paddedGeneration g).all isAsciiDigit = true := by
  have hlt := g.toNat_lt
  refine ⟨decimalValue_fixedDecimal (by omega), length_fixedDecimal 20 _, ?_⟩
  exact List.all_eq_true.2 fun _ => isAsciiDigit_of_mem_fixedDecimal

attribute [irreducible] paddedGeneration

theorem toList_generationName (g : RuntimeGeneration) :
    (generationName g).toList = "generation-".toList ++ paddedGeneration g :=
  String.toList_ofList

theorem toList_temporaryName (g : RuntimeGeneration) (u : BitVec 128) (suffix : String) :
    (temporaryName X g u suffix).toList = ".generation-".toList ++ (paddedGeneration g ++
      '-' :: ((X.formatUuid u).toList ++ suffix.toList)) :=
  String.toList_ofList

theorem dropPrefix?_append (p l : List Char) : (p ++ l).dropPrefix? p = some l :=
  List.dropPrefix?_append_of_beq l (by simp)

theorem parseRuntimeGenerationName_generationName (h : 0 < g) :
    parseRuntimeGenerationName (generationName g) = some g := by
  obtain ⟨hvalue, hlength, hdigits⟩ := paddedGeneration_spec g
  have hparse : parseU64 (paddedGeneration g) = some g := by
    rw [parseU64, hvalue, if_pos g.toNat_lt, UInt64.ofNat_toNat]
  rw [parseRuntimeGenerationName, toList_generationName, dropPrefix?_append]
  simp only [Option.bind_eq_bind, Option.bind_some, guard_of (And.intro hlength hdigits), hparse,
    guard_of (And.intro h trivial), Option.pure_def]

theorem generationName_ne_temporaryName (g g' : RuntimeGeneration) (u : BitVec 128)
    (suffix : String) : generationName g ≠ temporaryName X g' u suffix := by
  intro h
  have hhead := congrArg (fun s => s.toList.head?) h
  simp only [toList_generationName, toList_temporaryName] at hhead
  cases hhead

theorem generationName_injective (h : generationName g = generationName g') : g = g' := by
  have hlist := congrArg String.toList h
  rw [toList_generationName, toList_generationName] at hlist
  have hvalue := congrArg decimalValue (List.append_cancel_left hlist)
  rw [(paddedGeneration_spec g).1, (paddedGeneration_spec g').1] at hvalue
  exact UInt64.toNat_inj.1 hvalue

variable {X}

theorem parseRuntimeQuarantineName_eq_some (h : parseRuntimeQuarantineName X name = some g) :
    ∃ u, name = quarantineName X g u := by
  simp only [parseRuntimeQuarantineName, Option.bind_eq_bind, Option.bind_eq_some_iff,
    Option.pure_def, Option.some.injEq] at h
  obtain ⟨_, _, _, _, _, _, _, _, generation, _, uuid, _, _, hname, rfl⟩ := h
  exact ⟨uuid, (of_guard_eq_some hname).2⟩

theorem temporaryName_suffix (g : RuntimeGeneration) (u : BitVec 128) (suffix : String) :
    ∃ stem, (temporaryName X g u suffix).toList = stem ++ suffix.toList := by
  refine ⟨".generation-".toList ++ (paddedGeneration g ++ '-' :: (X.formatUuid u).toList), ?_⟩
  rw [toList_temporaryName, List.append_assoc, List.append_assoc, List.cons_append]

theorem pendingName_ne_quarantineName (g g' : RuntimeGeneration) (u u' : BitVec 128) :
    pendingName X g u ≠ quarantineName X g' u' := by
  intro h
  obtain ⟨stem, hstem⟩ := temporaryName_suffix (X := X) g u ".pending"
  obtain ⟨stem', hstem'⟩ := temporaryName_suffix (X := X) g' u' ".pruning"
  have hlist : stem ++ ".pending".toList = stem' ++ ".pruning".toList := by
    rw [← hstem, ← hstem']
    exact congrArg String.toList h
  have hsuffix := (List.append_inj' hlist (by decide)).2
  exact absurd hsuffix (by decide)

theorem parse_pendingName (g : RuntimeGeneration) (u : BitVec 128) :
    parseRuntimeGenerationName (pendingName X g u) = none ∧
      parseRuntimeQuarantineName X (pendingName X g u) = none := by
  constructor
  · cases hparse : parseRuntimeGenerationName (pendingName X g u) with
    | none => rfl
    | some g' =>
      have hname := (parseRuntimeGenerationName_eq_some hparse).2
      exact absurd hname.symm (generationName_ne_temporaryName X g' g u _)
  · cases hparse : parseRuntimeQuarantineName X (pendingName X g u) with
    | none => rfl
    | some g' =>
      obtain ⟨u', hname⟩ := parseRuntimeQuarantineName_eq_some hparse
      exact absurd hname (pendingName_ne_quarantineName g g' u u')

theorem generation_names_exact (name : String) (g : RuntimeGeneration) :
    parseRuntimeGenerationName name = some g ↔ 0 < g ∧ name = generationName g := by
  constructor
  · exact parseRuntimeGenerationName_eq_some
  · rintro ⟨hg, rfl⟩
    exact parseRuntimeGenerationName_generationName hg

attribute [irreducible] generationName temporaryName

end Ratash
