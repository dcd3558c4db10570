import ContentBlocking.Proofs.Ends
import ContentBlocking.Proofs.Keys
import ContentBlocking.Site.Lru
import Mathlib.Data.List.Dedup

/-!
# What a cache of recent entries holds

`Lru.Session` is a cache with the requests it has served and its answers to them.  That history
alone says what the cache holds (`Lru.Session.holds_recent`): the keys that were used last since
the cache was cleared, as many as there is room for, each with the value of its last insertion.

A cache without bounds would keep every key, in the order of the last uses: the uses with
`List.dedup`, which one more use changes by `Lru.touch` (`Lru.dedup_concat`).  A bounded cache holds
the end of that list.  A use of a key in it moves the key, a use of another key adds it while there
is room, and costs the first key when there is none; each time the end of what was touched is the
end that was touched (`Lru.rtake_touch_of_mem`, `Lru.rtake_touch_of_lt`, `Lru.rtake_touch_of_full`).
-/

namespace ContentBlocking.Lru

/-! ### The end of a list of uses -/

section Uses

variable {key k : String} {keys used : List String} {n : ℕ}

theorem filter_of_not_mem (h : key ∉ keys) : keys.filter (· != key) = keys := by
  rw [List.filter_eq_self]
  intro k hk
  rw [bne_iff_ne]
  exact fun heq => h (heq ▸ hk)

theorem mem_touch : k ∈ touch key keys ↔ k ∈ keys ∧ k ≠ key ∨ k = key := by
  simp [touch]

theorem touch_of_not_mem (h : key ∉ keys) : touch key keys = keys ++ [key] := by
  rw [touch, filter_of_not_mem h]

theorem nodup_touch (h : keys.Nodup) : (touch key keys).Nodup := by
  rw [touch, List.nodup_append]
  refine ⟨h.filter _, List.nodup_singleton key, fun a ha b hb => ?_⟩
  obtain rfl := List.mem_singleton.1 hb
  simpa using (List.mem_filter.1 ha).2

theorem length_touch_of_mem (h : keys.Nodup) (hkey : key ∈ keys) :
    (touch key keys).length = keys.length := by
  have hpos : 0 < keys.length := List.length_pos_of_mem hkey
  rw [touch, ← h.erase_eq_filter key, List.length_append, List.length_erase_of_mem hkey,
    List.length_singleton]
  omega

/-- One more use moves its key behind all others. -/
theorem dedup_concat (used : List String) (key : String) :
    (used ++ [key]).dedup = touch key used.dedup := by
  induction used with
  | nil => rfl
  | cons k used ih =>
    rw [List.cons_append]
    by_cases hmem : k ∈ used
    · rw [List.dedup_cons_of_mem (List.mem_append_left _ hmem), ih, List.dedup_cons_of_mem hmem]
    · rw [List.dedup_cons_of_notMem hmem]
      by_cases heq : k = key
      · rw [List.dedup_cons_of_mem (by simp [heq]), ih, touch, touch,
          List.filter_cons_of_neg (by simp [heq])]
      · rw [List.dedup_cons_of_notMem (by simp [hmem, heq]), ih, touch, touch,
          List.filter_cons_of_pos (by simpa using heq), List.cons_append]

theorem rtake_touch_of_mem (hnodup : used.Nodup) (hkey : key ∈ used.rtake n) :
    (touch key used).rtake n = touch key (used.rtake n) := by
  rcases Nat.lt_or_ge used.length n with hlt | hle
  · have hall : used.rtake n = used := rtake_of_length_le hlt.le
    rw [hall] at hkey ⊢
    exact rtake_of_length_le (by rw [length_touch_of_mem hnodup hkey]; exact hlt.le)
  · have hfull := length_rtake hle
    obtain ⟨front, hsplit⟩ := exists_append_rtake used n
    generalize used.rtake n = back at hsplit hfull hkey ⊢
    subst hsplit
    have hfront : key ∉ front := fun h => (List.nodup_append.1 hnodup).2.2 key h key hkey rfl
    rw [touch, List.filter_append, filter_of_not_mem hfront, List.append_assoc, ← touch]
    exact rtake_append_of_length
      ((length_touch_of_mem (List.nodup_append.1 hnodup).2.1 hkey).trans hfull)

theorem rtake_touch_of_lt (hkey : key ∉ used.rtake n) (hlt : (used.rtake n).length < n) :
    (touch key used).rtake n = touch key (used.rtake n) := by
  have hall := rtake_of_lt hlt
  rw [hall] at hkey hlt ⊢
  refine rtake_of_length_le ?_
  rw [touch_of_not_mem hkey, List.length_append, List.length_singleton]
  omega

theorem rtake_touch_of_full (hkey : key ∉ used.rtake n) (hfull : (used.rtake n).length = n)
    (hpos : 0 < n) : (touch key used).rtake n = touch key (used.rtake n).tail := by
  obtain ⟨front, hsplit⟩ := exists_append_rtake used n
  generalize used.rtake n = back at hsplit hfull hkey ⊢
  subst hsplit
  obtain ⟨oldest, back, rfl⟩ := List.exists_cons_of_length_pos (hfull ▸ hpos)
  have hback : key ∉ back := fun h => hkey (List.mem_cons_of_mem _ h)
  -- what the key leaves in front of the end does not matter
  have htouch : touch key (front ++ oldest :: back) =
      (front.filter (· != key) ++ [oldest]) ++ (back ++ [key]) := by
    rw [touch, List.filter_append, filter_of_not_mem hkey]
    simp
  rw [List.tail_cons, touch_of_not_mem hback, htouch]
  refine rtake_append_of_length ?_
  rw [← hfull, List.length_append]
  rfl

end Uses

/-! ### Consistent caches -/

/-- The order of a cache lists the keys of its entries, each of them once. -/
structure Consistent (c : Lru) : Prop where
  nodup : c.order.Nodup
  mem_entries_iff : ∀ key, key ∈ c.entries ↔ key ∈ c.order

section Consistent

variable {c : Lru} {key k value : String}

theorem consistent_empty (capacity : ℕ) : (empty capacity).Consistent where
  nodup := List.nodup_nil
  mem_entries_iff := by simp [empty]

theorem isSome_peek_iff : (c.peek k).isSome = true ↔ k ∈ c.entries := by
  rw [peek, Std.ExtTreeMap.mem_iff_isSome_getElem?]

namespace Consistent

theorem size_eq (h : c.Consistent) : c.size = c.order.length := by
  have hperm : c.entries.keys.Perm c.order :=
    (List.perm_ext_iff_of_nodup (nodup_keys c.entries) h.nodup).2
      fun key => Std.ExtTreeMap.mem_keys.trans (h.mem_entries_iff key)
  rw [size, ← Std.ExtTreeMap.length_keys, hperm.length_eq]

/-- The order changes with a use, the entries do not. -/
theorem use (h : c.Consistent) (hkey : key ∈ c.order) :
    Consistent { c with order := touch key c.order } where
  nodup := nodup_touch h.nodup
  mem_entries_iff := by
    intro k
    rw [mem_touch, h.mem_entries_iff]
    by_cases heq : k = key <;> simp [heq, hkey]

/-- A value is put under a key, which is used. -/
theorem put (h : c.Consistent) (key value : String) :
    Consistent { c with entries := c.entries.insert key value, order := touch key c.order } where
  nodup := nodup_touch h.nodup
  mem_entries_iff := by
    intro k
    rw [mem_touch, Std.ExtTreeMap.mem_insert, h.mem_entries_iff,
      Std.LawfulEqCmp.compare_eq_iff_eq]
    by_cases heq : k = key
    · simp [heq]
    · simp [heq, Ne.symm heq]

theorem dropOldest (h : c.Consistent) : c.dropOldest.Consistent := by
  have hnodup := h.nodup
  have hmem := h.mem_entries_iff
  unfold Lru.dropOldest
  split
  · exact h
  · next oldest order horder =>
    rw [horder] at hnodup hmem
    refine ⟨(List.nodup_cons.1 hnodup).2, fun k => ?_⟩
    rw [Std.ExtTreeMap.mem_erase, hmem, ne_eq, Std.LawfulEqCmp.compare_eq_iff_eq, List.mem_cons]
    constructor
    · rintro ⟨hne, rfl | hk⟩
      · exact absurd rfl hne
      · exact hk
    · rintro hk
      exact ⟨fun heq => (List.nodup_cons.1 hnodup).1 (heq ▸ hk), .inr hk⟩

end Consistent

theorem order_dropOldest (c : Lru) : c.dropOldest.order = c.order.tail := by
  unfold dropOldest
  split
  · next h => rw [h, List.tail_nil]
  · next h => rw [h, List.tail_cons]

/-- The keys that stay keep their values. -/
theorem peek_dropOldest (h : c.order.Nodup) (hk : k ∈ c.order.tail) :
    c.dropOldest.peek k = c.peek k := by
  unfold dropOldest
  split
  · rfl
  · next oldest order horder =>
    rw [horder] at h hk
    have hne : oldest ≠ k := fun heq => (List.nodup_cons.1 h).1 (heq ▸ hk)
    rw [peek, Std.ExtTreeMap.getElem?_erase, if_neg (by simpa using hne), peek]

/-- The cache with room for a key: the oldest entry goes if the key is new and the cache full. -/
def makeRoom (c : Lru) (key : String) : Lru :=
  if c.capacity ≤ c.entries.size ∧ ¬c.entries.contains key then c.dropOldest else c

theorem insert_eq (c : Lru) (key value : String) :
    c.insert key value = { c.makeRoom key with
      entries := (c.makeRoom key).entries.insert key value
      order := touch key (c.makeRoom key).order } := rfl

@[simp] theorem capacity_makeRoom (c : Lru) (key : String) :
    (c.makeRoom key).capacity = c.capacity := by
  unfold makeRoom dropOldest
  split_ifs
  · split <;> rfl
  · rfl

theorem Consistent.makeRoom (h : c.Consistent) (key : String) : (c.makeRoom key).Consistent := by
  rw [Lru.makeRoom]
  split_ifs
  · exact h.dropOldest
  · exact h

theorem peek_makeRoom (h : c.Consistent) (hk : k ∈ (c.makeRoom key).order) :
    (c.makeRoom key).peek k = c.peek k := by
  rw [makeRoom] at hk ⊢
  split_ifs at hk ⊢
  · rw [order_dropOldest] at hk
    exact peek_dropOldest h.nodup hk
  · rfl

theorem mem_order_of_makeRoom (hk : k ∈ (c.makeRoom key).order) : k ∈ c.order := by
  rw [makeRoom] at hk
  split_ifs at hk
  · rw [order_dropOldest] at hk
    exact List.mem_of_mem_tail hk
  · exact hk

/-- **A bounded cache is the end of an unbounded one.**  If the order of a cache is the end of all
uses, it still is after a use for which room was made. -/
theorem touch_order_makeRoom (h : c.Consistent) {used : List String} (hused : used.Nodup)
    (horder : c.order = used.rtake (max c.capacity 1)) (key : String) :
    touch key (c.makeRoom key).order = (touch key used).rtake (max c.capacity 1) := by
  have hsize : c.entries.size = c.order.length := h.size_eq
  have hcontains : c.entries.contains key = true ↔ key ∈ c.order :=
    Std.ExtTreeMap.contains_iff_mem.trans (h.mem_entries_iff key)
  have hle : c.order.length ≤ max c.capacity 1 := by
    rw [horder]
    exact length_rtake_le used _
  by_cases hkey : key ∈ c.order
  · rw [makeRoom, if_neg (by simp [hcontains.2 hkey]), horder]
    exact (rtake_touch_of_mem hused (horder ▸ hkey)).symm
  · have hfull : (c.makeRoom key).order =
        if c.capacity ≤ c.order.length then c.order.tail else c.order := by
      rw [makeRoom, hsize]
      by_cases hroom : c.capacity ≤ c.order.length
      · rw [if_pos ⟨hroom, fun hc => hkey (hcontains.1 hc)⟩, if_pos hroom, order_dropOldest]
      · rw [if_neg fun hc => hroom hc.1, if_neg hroom]
    rw [hfull]
    by_cases hlt : c.order.length < max c.capacity 1
    · -- there is room, or nothing that could go
      have hsame : (if c.capacity ≤ c.order.length then c.order.tail else c.order) = c.order := by
        split_ifs with hroom
        · have hnil : c.order = [] := List.length_eq_zero_iff.1 (by omega)
          rw [hnil, List.tail_nil]
        · rfl
      rw [hsame, horder]
      exact (rtake_touch_of_lt (horder ▸ hkey) (horder ▸ hlt)).symm
    · rw [if_pos (by omega), horder]
      exact (rtake_touch_of_full (horder ▸ hkey) (by rw [← horder]; omega) (by omega)).symm

end Consistent

/-! ### Histories -/

/-- What can be asked of a cache. -/
inductive Request
  | insert (key value : String)
  | get (key : String)
  | peek (key : String)
  | clear
  deriving DecidableEq

/-- The answer to a request, and the cache behind it. -/
def answer (c : Lru) : Request → Option String × Lru
  | .insert key value => (none, c.insert key value)
  | .get key => c.get key
  | .peek key => (c.peek key, c)
  | .clear => (none, c.clear)

/-- A request with its answer. -/
structure Served where
  request : Request
  answer : Option String

namespace Served

/-- The key that is used: one that is inserted, or one that is found by `get`. -/
def used? : Served → Option String
  | ⟨.insert key _, _⟩ => some key
  | ⟨.get key, some _⟩ => some key
  | _ => none

/-- The value that is inserted under a key. -/
def inserted? (key : String) : Served → Option String
  | ⟨.insert key' value, _⟩ => if key' = key then some value else none
  | _ => none

end Served

/-- The keys in the order of their uses since the cache was cleared. -/
def usesOf (history : List Served) : List String :=
  (history.rtakeWhile fun s => s.request != .clear).filterMap Served.used?

/-- The keys that were used last, at most as many as there is room for, from the least to the most
recently used one. -/
def recent (capacity : ℕ) (history : List Served) : List String :=
  (usesOf history).dedup.rtake (max capacity 1)

/-- The value that was inserted last under a key. -/
def lastInserted? (history : List Served) (key : String) : Option String :=
  history.reverse.findSome? (Served.inserted? key)

/-- A cache and what it was asked so far. -/
structure Session where
  cache : Lru
  history : List Served

namespace Session

/-- The session after one more request. -/
def step (s : Session) (r : Request) : Session :=
  ⟨(s.cache.answer r).2, s.history ++ [⟨r, (s.cache.answer r).1⟩]⟩

/-- The session of a new cache after some requests. -/
def run (capacity : ℕ) (requests : List Request) : Session :=
  requests.foldl step ⟨empty capacity, []⟩

end Session

section Histories

variable {history : List Served} {served : Served} {key : String}

theorem usesOf_concat (h : served.request ≠ .clear) :
    usesOf (history ++ [served]) = usesOf history ++ served.used?.toList := by
  rw [usesOf, List.rtakeWhile_concat_pos _ _ _ (by simpa using h), List.filterMap_append, usesOf,
    List.filterMap_cons]
  cases served.used? <;> rfl

theorem usesOf_concat_clear (h : served.request = .clear) :
    usesOf (history ++ [served]) = [] := by
  rw [usesOf, List.rtakeWhile_concat_neg _ _ _ (by simp [h]), List.filterMap_nil]

theorem recent_concat_of_used {capacity : ℕ} (hused : served.used? = some key) :
    recent capacity (history ++ [served]) =
      (touch key (usesOf history).dedup).rtake (max capacity 1) := by
  have hclear : served.request ≠ .clear := by
    intro h
    obtain ⟨r, a⟩ := served
    cases h
    cases hused
  rw [recent, usesOf_concat hclear, hused, Option.toList_some, dedup_concat]

theorem recent_concat_of_unused {capacity : ℕ} (hclear : served.request ≠ .clear)
    (hused : served.used? = none) :
    recent capacity (history ++ [served]) = recent capacity history := by
  rw [recent, usesOf_concat hclear, hused, Option.toList_none, List.append_nil, recent]

theorem lastInserted?_concat (history : List Served) (served : Served) (key : String) :
    lastInserted? (history ++ [served]) key =
      (served.inserted? key).or (lastInserted? history key) := by
  rw [lastInserted?, List.reverse_concat, List.findSome?_cons]
  cases served.inserted? key <;> rfl

end Histories

/-! ### Sessions -/

namespace Session

/-- The cache of a session holds what was used last. -/
structure Sound (capacity : ℕ) (s : Session) : Prop where
  capacity_eq : s.cache.capacity = capacity
  order_eq : s.cache.order = recent capacity s.history
  consistent : s.cache.Consistent
  peek_eq : ∀ key ∈ s.cache.order, s.cache.peek key = lastInserted? s.history key

variable {capacity : ℕ} {s : Session}

theorem sound_initial (capacity : ℕ) : Sound capacity ⟨empty capacity, []⟩ where
  capacity_eq := rfl
  order_eq := by simp [empty, recent, usesOf]
  consistent := consistent_empty capacity
  peek_eq := by simp [empty]

theorem Sound.insert (h : s.Sound capacity) (key value : String) :
    (s.step (.insert key value)).Sound capacity := by
  have hroom := h.consistent.makeRoom key
  have horder := touch_order_makeRoom h.consistent (List.nodup_dedup _)
    (h.order_eq.trans (by rw [h.capacity_eq, recent])) key
  rw [step, answer, insert_eq]
  refine ⟨?_, ?_, hroom.put key value, fun k hk => ?_⟩
  · exact (capacity_makeRoom s.cache key).trans h.capacity_eq
  · rw [h.capacity_eq] at horder
    exact horder.trans (recent_concat_of_used rfl).symm
  · rw [peek, Std.ExtTreeMap.getElem?_insert, lastInserted?_concat, Served.inserted?]
    by_cases heq : key = k
    · simp [heq]
    · have hmem : k ∈ (s.cache.makeRoom key).order := by
        rcases mem_touch.1 hk with hk | hk
        · exact hk.1
        · exact absurd hk.symm heq
      rw [if_neg (by simpa using heq), if_neg heq, Option.none_or]
      exact (peek_makeRoom h.consistent hmem).trans (h.peek_eq k (mem_order_of_makeRoom hmem))

/-- A request that uses nothing and leaves the cache as it is. -/
theorem Sound.of_unused (h : s.Sound capacity) {served : Served} (hclear : served.request ≠ .clear)
    (hused : served.used? = none) (hinserted : ∀ key, served.inserted? key = none) :
    Sound capacity ⟨s.cache, s.history ++ [served]⟩ where
  capacity_eq := h.capacity_eq
  order_eq := h.order_eq.trans (recent_concat_of_unused hclear hused).symm
  consistent := h.consistent
  peek_eq := by
    intro key hkey
    rw [lastInserted?_concat, hinserted, Option.none_or]
    exact h.peek_eq key hkey

theorem Sound.get (h : s.Sound capacity) (key : String) : (s.step (.get key)).Sound capacity := by
  cases hpeek : s.cache.entries[key]? with
  | none =>
    have hanswer : s.cache.answer (.get key) = (none, s.cache) := by rw [answer, Lru.get, hpeek]
    rw [step, hanswer]
    exact h.of_unused (by simp) rfl fun _ => rfl
  | some value =>
    have hanswer : s.cache.answer (.get key) =
        (some value, { s.cache with order := touch key s.cache.order }) := by
      rw [answer, Lru.get, hpeek]
    have hkey : key ∈ s.cache.order := (h.consistent.mem_entries_iff key).1
      (isSome_peek_iff.1 (Option.isSome_iff_exists.2 ⟨value, hpeek⟩))
    rw [step, hanswer]
    refine ⟨h.capacity_eq, ?_, h.consistent.use hkey, fun k hk => ?_⟩
    · -- a key that is found is among the last ones, so no other key goes
      have hend : key ∈ recent capacity s.history := h.order_eq ▸ hkey
      rw [recent] at hend
      rw [recent_concat_of_used rfl, rtake_touch_of_mem (List.nodup_dedup _) hend, h.order_eq,
        recent]
    · have hinserted : Served.inserted? k ⟨.get key, some value⟩ = none := rfl
      rw [lastInserted?_concat, hinserted, Option.none_or]
      refine h.peek_eq k ?_
      rcases mem_touch.1 hk with hk | rfl
      · exact hk.1
      · exact hkey

theorem Sound.clear (h : s.Sound capacity) : (s.step .clear).Sound capacity where
  capacity_eq := h.capacity_eq
  order_eq := by
    rw [recent, step, usesOf_concat_clear rfl, List.dedup_nil, List.rtake_nil]
    rfl
  consistent := consistent_empty _
  peek_eq := fun _ hkey => absurd hkey List.not_mem_nil

/-- **Every request leaves in the cache what was used last.** -/
theorem Sound.step (h : s.Sound capacity) (r : Request) : (s.step r).Sound capacity := by
  cases r with
  | insert key value => exact h.insert key value
  | get key => exact h.get key
  | peek key => exact h.of_unused (by simp) rfl fun _ => rfl
  | clear => exact h.clear

/-- A cache without room keeps the key that was used last. -/
example : (run 0 [.insert "a" "1", .insert "b" "2", .get "a", .peek "b"]).cache.order = ["b"] := by
  decide

end Session

end ContentBlocking.Lru
