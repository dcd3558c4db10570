import ContentBlocking.Json.Value
import Mathlib.Data.String.Basic

/-!
# The keys of a map

A map lists its keys once each, and in their order.
-/

namespace ContentBlocking

variable {κ ν : Type} {cmp : κ → κ → Ordering} [Std.TransCmp cmp] [Std.LawfulEqCmp cmp]

theorem nodup_keys (m : Std.ExtTreeMap κ ν cmp) : m.keys.Nodup :=
  Std.ExtTreeMap.distinct_keys.imp fun hne heq => hne (Std.LawfulEqCmp.compare_eq_iff_eq.2 heq)

theorem mem_keys_iff {m : Std.ExtTreeMap κ ν cmp} {k : κ} : k ∈ m.keys ↔ ∃ v, m[k]? = some v := by
  rw [Std.ExtTreeMap.mem_keys, Std.ExtTreeMap.mem_iff_isSome_getElem?, Option.isSome_iff_exists]

theorem pairwise_keys (m : Std.ExtTreeMap String ν) : m.keys.Pairwise (· < ·) :=
  Std.ExtTreeMap.ordered_keys.imp compare_lt_iff_lt.1

end ContentBlocking
