import ContentBlocking.Json.Reader
import Mathlib.Data.List.Induction
import Mathlib.Data.List.Nodup
import Mathlib.Data.List.Pairwise

/-!
# Members of objects

An object has a member under a name if no other member has that name (`Value.get?_object_iff`), and
sorting the members changes nothing about that (`Value.get?_sortMembers_iff`).
-/

namespace ContentBlocking.Json

variable {ms : List (String × Value)} {m : String × Value}

theorem mem_of_mem_sortMembers (h : m ∈ sortMembers ms) : m ∈ ms := by
  induction ms using List.reverseRecOn with
  | nil => exact h
  | append_singleton ms n ih =>
    rw [sortMembers, Std.ExtTreeMap.ofList_eq_foldl, List.foldl_concat,
      ← Std.ExtTreeMap.ofList_eq_foldl] at h
    rw [Std.ExtTreeMap.mem_toList_iff_getElem?_eq_some, Std.ExtTreeMap.getElem?_insert] at h
    rw [List.mem_append, List.mem_singleton]
    split_ifs at h with hn
    · refine .inr (Prod.ext ?_ (Option.some.inj h).symm)
      exact (Std.LawfulEqCmp.compare_eq_iff_eq.1 hn).symm
    · exact .inl (ih (Std.ExtTreeMap.mem_toList_iff_getElem?_eq_some.2 h))

theorem exists_mem_sortMembers (h : m ∈ ms) : ∃ v, (m.1, v) ∈ sortMembers ms := by
  have hm : m.1 ∈ Std.ExtTreeMap.ofList ms compare := by
    rw [Std.ExtTreeMap.mem_ofList, List.contains_iff_mem]
    exact List.mem_map_of_mem h
  exact ⟨_, Std.ExtTreeMap.mem_toList_iff_getElem?_eq_some.2
    (Std.ExtTreeMap.getElem?_eq_some_getElem hm)⟩

/-- Members of different names. -/
def Distinct (ms : List (String × Value)) : Prop := ms.Pairwise fun m n => m.1 ≠ n.1

theorem distinct_sortMembers (ms : List (String × Value)) : Distinct (sortMembers ms) := by
  refine List.Pairwise.imp ?_ (Std.ExtTreeMap.distinct_keys_toList (t := .ofList ms compare))
  intro m n hmn heq
  exact hmn (Std.LawfulEqCmp.compare_eq_iff_eq.2 heq)

theorem Distinct.filter (h : Distinct ms) (p : String × Value → Bool) : Distinct (ms.filter p) :=
  List.Pairwise.filter p h

theorem Distinct.nodup (h : Distinct ms) : ms.Nodup :=
  h.imp fun hmn heq => hmn (congrArg Prod.fst heq)

/-- A member that is the only one of its name is kept. -/
theorem mem_sortMembers_of_unique (hm : m ∈ ms) (h : ∀ v, (m.1, v) ∈ ms → v = m.2) :
    m ∈ sortMembers ms := by
  obtain ⟨v, hv⟩ := exists_mem_sortMembers hm
  have heq : v = m.2 := h v (mem_of_mem_sortMembers hv)
  rwa [heq] at hv

theorem Distinct.eq_of_mem {name : String} {v w : Value} (h : Distinct ms) (hv : (name, v) ∈ ms)
    (hw : (name, w) ∈ ms) : v = w := by
  by_contra hne
  have hsymm : Std.Symm fun m n : String × Value => m.1 ≠ n.1 := ⟨fun _ _ => Ne.symm⟩
  exact h.forall hv hw (fun heq => hne (congrArg Prod.snd heq)) rfl

/-- Sorting keeps all members if no two have one name. -/
theorem mem_sortMembers_iff (h : Distinct ms) : m ∈ sortMembers ms ↔ m ∈ ms := by
  refine ⟨mem_of_mem_sortMembers, fun hm => ?_⟩
  exact mem_sortMembers_of_unique hm fun v hv => h.eq_of_mem hv hm

theorem sortMembers_perm (h : Distinct ms) : (sortMembers ms).Perm ms :=
  (List.perm_ext_iff_of_nodup (distinct_sortMembers ms).nodup h.nodup).2
    fun _ => mem_sortMembers_iff h

theorem sortMembers_singleton (m : String × Value) : sortMembers [m] = [m] :=
  List.perm_singleton.1 (sortMembers_perm (List.pairwise_singleton _ m))

/-- **An object has the members that stand in it.** -/
theorem Value.get?_object_iff (h : Distinct ms) {name : String} {v : Value} :
    (Value.object ms).get? name = some v ↔ (name, v) ∈ ms := by
  rw [Value.get?, Option.map_eq_some_iff]
  constructor
  · rintro ⟨⟨name', v⟩, hfind, rfl⟩
    obtain rfl : name' = name := by simpa using List.find?_some hfind
    exact List.mem_of_find?_eq_some hfind
  · intro hmem
    cases hfind : ms.find? fun m => m.1 == name with
    | none => exact absurd (List.find?_eq_none.1 hfind _ hmem) (by simp)
    | some n =>
      obtain ⟨name', w⟩ := n
      obtain rfl : name' = name := by simpa using List.find?_some hfind
      exact ⟨_, rfl, h.eq_of_mem (List.mem_of_find?_eq_some hfind) hmem⟩

theorem Value.get?_sortMembers_iff (h : Distinct ms) {name : String} {v : Value} :
    (Value.object (sortMembers ms)).get? name = some v ↔ (name, v) ∈ ms := by
  rw [Value.get?_object_iff (distinct_sortMembers ms), mem_sortMembers_iff h]

end ContentBlocking.Json
