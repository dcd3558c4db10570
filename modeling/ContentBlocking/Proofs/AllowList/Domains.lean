import ContentBlocking.AllowList.Domains
import Mathlib.Data.List.Sort
import Mathlib.Data.String.Basic

/-!
# Sets of domains as lists

`AllowList.Domains.toList` lists every domain of a set once, in the order of the code points, and
only a set without domains has no content rule.  Two sets that contain the same domains are the
same.
-/

namespace ContentBlocking.AllowList.Domains

variable {d : Domains} {domain : String}

theorem pairwise_toList (d : Domains) : d.toList.Pairwise (· < ·) :=
  Std.ExtTreeSet.ordered_toList.imp compare_lt_iff_lt.1

theorem mem_toList_iff : domain ∈ d.toList ↔ d.contains domain = true :=
  Std.ExtTreeSet.mem_toList.trans Std.ExtTreeSet.contains_iff_mem.symm

theorem toList_eq_nil_iff : d.toList = [] ↔ d.isEmpty = true := by
  rw [← List.isEmpty_iff, toList, Std.ExtTreeSet.isEmpty_toList, isEmpty]

theorem rule?_eq_none_iff : d.rule? = none ↔ d.toList = [] := by
  rw [toList_eq_nil_iff, rule?]
  split_ifs with h
  · exact iff_of_true rfl h
  · exact iff_of_false (by simp) h

theorem ext_contains {d d' : Domains} (h : ∀ domain, d.contains domain = d'.contains domain) :
    d = d' := by
  obtain ⟨domains, patterns, rfl⟩ := d
  obtain ⟨domains', patterns', rfl⟩ := d'
  obtain rfl : domains = domains' := Std.ExtTreeSet.ext_contains h
  rfl

/-- The patterns are those of the domains in the order of their code points. -/
theorem patterns_eq_map (d : Domains) :
    d.patterns = d.toList.map fun domain => DomainPattern.ofWildcard (wildcard domain) :=
  d.patterns_eq

theorem contains_empty : empty.contains domain = false := Std.ExtTreeSet.contains_empty

theorem contains_ofList_iff {domains : List String} :
    (ofList domains).contains domain = true ↔ domain ∈ domains := by
  rw [contains, ofList, ofSet, Std.ExtTreeSet.contains_ofList, List.contains_iff_mem]

theorem contains_insert (d : Domains) (host domain : String) :
    (d.insert host).contains domain = if domain = host then true else d.contains domain := by
  have hcompare : compare host domain = .eq ↔ domain = host :=
    Std.LawfulEqCmp.compare_eq_iff_eq.trans eq_comm
  rw [insert, contains, Std.ExtTreeSet.contains_insert]
  by_cases heq : domain = host <;> simp [heq, hcompare, contains]

theorem contains_erase (d : Domains) (host domain : String) :
    (d.erase host).contains domain = if domain = host then false else d.contains domain := by
  have hcompare : compare host domain = .eq ↔ domain = host :=
    Std.LawfulEqCmp.compare_eq_iff_eq.trans eq_comm
  rw [erase, contains, Std.ExtTreeSet.contains_erase]
  by_cases heq : domain = host <;> simp [heq, hcompare, contains]

theorem nodup_toList (d : Domains) : d.toList.Nodup :=
  d.pairwise_toList.imp fun hlt => ne_of_lt hlt

theorem toList_erase (d : Domains) (host : String) :
    (d.erase host).toList = d.toList.erase host := by
  refine (pairwise_toList _).eq_of_mem_iff (d.pairwise_toList.erase host) fun domain => ?_
  rw [mem_toList_iff, contains_erase, d.nodup_toList.mem_erase_iff, mem_toList_iff]
  split_ifs with heq <;> simp [heq]

theorem toList_ofList {domains : List String} (h : domains.Pairwise (· < ·)) :
    (ofList domains).toList = domains := by
  refine (pairwise_toList _).eq_of_mem_iff h fun domain => ?_
  rw [mem_toList_iff, contains_ofList_iff]

end ContentBlocking.AllowList.Domains
