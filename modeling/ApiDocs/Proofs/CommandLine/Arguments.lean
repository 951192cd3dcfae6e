import ApiDocs.CommandLine.Arguments
import ApiDocs.Proofs.Except
import Mathlib.Data.List.Nodup

/-!
# What arguments give

No argument gives a parameter a second value, so the two files that exclude each other are never
both given.
-/

namespace ApiDocs.CommandLine

namespace Scan

/-- Whether no parameter was given twice. -/
def Single (scan : Scan) : Prop :=
  (scan.values.map Prod.fst).Nodup

variable {scan after : Scan}

theorem Single.give (hs : scan.Single) {parameter : Parameter} {value : String}
    (h : scan.give parameter value = .ok after) : after.Single := by
  rw [Scan.give] at h
  split_ifs at h with hg hv
  cases h
  have hn : parameter ∉ scan.values.map Prod.fst := by
    intro hm
    obtain ⟨entry, he, rfl⟩ := List.mem_map.mp hm
    exact hg (List.any_eq_true.mpr ⟨entry, he, beq_self_eq_true _⟩)
  rw [Single, List.map_append, List.map_singleton, ← List.concat_eq_append, List.nodup_concat]
  exact ⟨hn, hs⟩

theorem Single.settle (hs : scan.Single) (h : scan.settle = .ok after) : after.Single := by
  rw [Scan.settle] at h
  split at h
  · cases h
    exact hs
  · have hclosed : Single { scan with open? := none } := hs
    exact hclosed.give h
  · cases h

theorem Single.raise (hs : scan.Single) {flag : Flag} (h : scan.raise flag = .ok after) :
    after.Single := by
  obtain ⟨settled, ht, h⟩ := bind_eq_ok.mp h
  have hsettled := hs.settle ht
  dsimp only at h
  split at h
  · cases h
  · split at h
    · cases h
    · cases h
      exact hsettled

theorem Single.raiseAll {letters : List Char} (hs : scan.Single)
    (h : scan.raiseAll letters = .ok after) : after.Single := by
  induction letters generalizing scan with
  | nil =>
    cases h
    exact hs
  | cons c rest ih =>
    rw [Scan.raiseAll] at h
    split at h
    · obtain ⟨raised, hr, h⟩ := bind_eq_ok.mp h
      exact ih (hs.raise hr) h
    · cases h

theorem Single.long (hs : scan.Single) {name : String} {value : Option String}
    (h : scan.long name value = .ok after) : after.Single := by
  unfold Scan.long at h
  split at h
  · obtain ⟨settled, ht, h⟩ := bind_eq_ok.mp h
    exact (hs.settle ht).give h
  · obtain ⟨settled, ht, h⟩ := bind_eq_ok.mp h
    have hsettled := hs.settle ht
    cases h
    exact hsettled
  · cases h
  · exact hs.raise h
  · cases h

theorem Single.positional (hs : scan.Single) {argument : String}
    (h : scan.positional argument = .ok after) : after.Single := by
  obtain ⟨settled, ht, h⟩ := bind_eq_ok.mp h
  have hsettled := hs.settle ht
  dsimp only at h
  split_ifs at h
  · cases h
  · cases h
    exact hsettled

theorem Single.foldlM_positional {paths : List String} (hs : scan.Single)
    (h : paths.foldlM Scan.positional scan = .ok after) : after.Single := by
  induction paths generalizing scan with
  | nil =>
    cases h
    exact hs
  | cons path rest ih =>
    rw [List.foldlM_cons] at h
    obtain ⟨next, hn, h⟩ := bind_eq_ok.mp h
    exact ih (hs.positional hn) h

theorem Single.take (hs : scan.Single) {argument : String}
    (h : scan.take argument = .ok after) : after.Single := by
  rw [Scan.take] at h
  split at h
  · dsimp only at h
    split at h
    · exact hs.long h
    · exact hs.long h
  · exact hs.raiseAll h
  · rw [Scan.plain] at h
    split at h
    · cases h
      exact hs
    · exact hs.positional h

theorem Single.takeAll {words : List String} (hs : scan.Single)
    (h : scan.takeAll words = .ok after) : after.Single := by
  induction words generalizing scan with
  | nil => exact hs.settle h
  | cons word rest ih =>
    unfold Scan.takeAll at h
    split at h
    · exact hs.settle h
    · obtain ⟨last, hl, h⟩ := bind_eq_ok.mp h
      exact (hs.foldlM_positional hl).settle h
    · rename_i heq
      cases heq
      obtain ⟨taken, ht, h⟩ := bind_eq_ok.mp h
      exact ih (hs.take ht) h

theorem single_empty : Scan.empty.Single :=
  List.nodup_nil

theorem mem_given {parameter : Parameter} (h : (scan.value? parameter).isSome) :
    parameter ∈ scan.values.map Prod.fst := by
  obtain ⟨entry, he, hk⟩ := List.lookup_isSome_iff.mp h
  exact List.mem_map.mpr ⟨entry, he, (eq_of_beq hk).symm⟩

/-- With both files given there is a conflict. -/
theorem Single.exists_conflict (hs : scan.Single) (ho : (scan.value? .outfile).isSome)
    (hi : (scan.value? .infile).isSome) : ∃ error, scan.conflict? = some error := by
  have hp : ((scan.values.map Prod.fst).filter (· ∈ [.outfile, .infile])).Perm
      [.outfile, .infile] := by
    rw [List.perm_ext_iff_of_nodup (hs.filter _) (by simp)]
    intro parameter
    rw [List.mem_filter, decide_eq_true_iff, and_iff_right_iff_imp]
    intro hm
    rcases List.mem_pair.mp hm with rfl | rfl
    · exact mem_given ho
    · exact mem_given hi
  obtain ⟨first, second, hf⟩ := List.length_eq_two.mp hp.length_eq
  rw [conflict?, hf]
  exact ⟨_, rfl⟩

end Scan

/-- Not both files are given. -/
theorem Arguments.outfile_or_infile_eq_none {words : List String} {arguments : Arguments}
    (h : Arguments.ofWords words = .ok arguments) :
    arguments.outfile = none ∨ arguments.infile = none := by
  obtain ⟨scan, ht, h⟩ := bind_eq_ok.mp h
  rw [Scan.finish] at h
  split at h
  · cases h
  · cases h
  · rename_i hc hp
    cases h
    by_contra hboth
    rw [not_or] at hboth
    obtain ⟨error, he⟩ := (Scan.single_empty.takeAll ht).exists_conflict
      (Option.isSome_iff_ne_none.mpr hboth.1) (Option.isSome_iff_ne_none.mpr hboth.2)
    rw [hc] at he
    cases he

end ApiDocs.CommandLine
