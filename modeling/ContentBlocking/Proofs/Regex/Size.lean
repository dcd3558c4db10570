import ContentBlocking.Proofs.Text.Bytes
import ContentBlocking.Regex.Automaton.Build
import Mathlib.Algebra.BigOperators.Ring.List
import Mathlib.Algebra.Group.Action.Defs
import Mathlib.Algebra.Ring.Nat

/-!
# Regular expressions that are small enough

A builder has no result if the automaton gets too large, and what a part takes depends on what is
built before it, because states are shared by a hash of their numbers.  `Builder.Takes` bounds it:
with room for that many bytes the part is built, wherever it stands.  The states of a set take at
most `setBytes` for each sequence of ranges of bytes, however they are shared
(`takes_setStates`).
-/

namespace ContentBlocking.Regex

namespace Automaton

variable {α β : Type} {n k : ℕ}

/-! ### Parts -/

namespace Builder

/-- With room for so many bytes the part is built and takes no more. -/
def Takes (n : ℕ) (part : Builder α) : Prop :=
  ∀ size : Size, size.bytes + n ≤ Size.maxBytes →
    ∃ a after, part.run size = some (a, after) ∧ after.bytes ≤ size.bytes + n

variable {part : Builder α} {f : α → Builder β}

theorem Takes.mono (h : Takes n part) (hle : n ≤ k) : Takes k part := by
  intro size hsize
  obtain ⟨a, after, hrun, hafter⟩ := h size (by omega)
  exact ⟨a, after, hrun, by omega⟩

theorem takes_pure (a : α) : Takes 0 (pure a : Builder α) :=
  fun size _ => ⟨a, size, rfl, le_rfl⟩

theorem Takes.bind (h : Takes n part) (hf : ∀ a, Takes k (f a)) : Takes (n + k) (part >>= f) := by
  intro size hsize
  obtain ⟨a, middle, hrun, hmiddle⟩ := h size (by omega)
  obtain ⟨b, after, hrun', hafter⟩ := hf a middle (by omega)
  refine ⟨b, after, ?_, by omega⟩
  rw [StateT.run_bind, hrun]
  exact hrun'

theorem takes_grow (part : Size) : Takes part.bytes (grow part) :=
  fun size hsize => ⟨(), size.add part, grow_eq_some_iff.2 ⟨hsize, rfl⟩, (size.bytes_add part).le⟩

theorem takes_state (listed : ℕ) : Takes (Size.stateBytes + listed) (state listed) := by
  intro size hsize
  have hbytes : (⟨1, listed⟩ : Size).bytes = Size.stateBytes + listed := by
    rw [Size.bytes, Nat.mul_one]
  obtain ⟨_, after, hrun, hafter⟩ := takes_grow ⟨1, listed⟩ size (by rwa [hbytes])
  refine ⟨size.states, after, ?_, by rwa [hbytes] at hafter⟩
  rw [state]
  simp [hrun]

theorem takes_link (fromChoice : Bool) : Takes Size.branchBytes (link fromChoice) := by
  cases fromChoice with
  | true => exact takes_grow ⟨0, Size.branchBytes⟩
  | false => exact (takes_pure ()).mono (Nat.zero_le _)

end Builder

/-! ### Parts with shared states -/

namespace SharedBuilder

/-- Whatever states there are to share, the part takes no more than so many bytes. -/
def Takes (n : ℕ) (part : SharedBuilder α) : Prop := ∀ shared, Builder.Takes n (part.run shared)

variable {part : SharedBuilder α} {f : α → SharedBuilder β}

theorem Takes.mono (h : Takes n part) (hle : n ≤ k) : Takes k part :=
  fun shared => (h shared).mono hle

theorem takes_pure (a : α) : Takes 0 (pure a : SharedBuilder α) :=
  fun shared => Builder.takes_pure (a, shared)

theorem Takes.bind (h : Takes n part) (hf : ∀ a, Takes k (f a)) : Takes (n + k) (part >>= f) := by
  intro shared
  rw [StateT.run_bind]
  exact (h shared).bind fun r => hf r.1 r.2

theorem takes_lift {part : Builder α} (h : Builder.Takes n part) :
    Takes n (liftM part : SharedBuilder α) := by
  intro shared
  exact (h.bind fun a => Builder.takes_pure (a, shared)).mono (by simp)

/-- A state is shared or it is new. -/
theorem takes_state (size : ℕ) (h : UInt64) (arrows : Arrows) (listed : ℕ) :
    Takes (Size.stateBytes + listed) (Shared.state size h arrows listed) := by
  intro shared
  have hnew : ∀ slot, Builder.Takes (Size.stateBytes + listed) (do
      let n ← Builder.state listed
      pure (n, (⟨shared.slots.insert slot (arrows, n)⟩ : Shared))) :=
    fun slot => (Builder.takes_state listed).bind fun n => Builder.takes_pure _
  have hold : ∀ n : ℕ, Builder.Takes (Size.stateBytes + listed) (pure (n, shared)) :=
    fun n => (Builder.takes_pure _).mono (Nat.zero_le _)
  rw [Shared.state]
  simp only [StateT.run_bind, StateT.run_get, pure_bind]
  cases hslot : shared.slots[h.toNat % size]? with
  | none => simpa using hnew (h.toNat % size)
  | some entry =>
    obtain ⟨known, n⟩ := entry
    by_cases hknown : known = arrows
    · simpa [hknown] using hold n
    · simpa [hknown] using hnew (h.toNat % size)

/-- Parts for the items of a list, and what is made of as many results. -/
theorem takes_mapM_bind {γ : Type} {items : List γ} {g : γ → SharedBuilder α} {cost : γ → ℕ}
    (hg : ∀ item ∈ items, Takes (cost item) (g item)) {f : List α → SharedBuilder β}
    (hf : ∀ results, results.length = items.length → Takes k (f results)) :
    Takes ((items.map cost).sum + k) (items.mapM g >>= f) := by
  induction items generalizing f with
  | nil => simpa using hf [] rfl
  | cons item items ih =>
    obtain ⟨hitem, hitems⟩ := List.forall_mem_cons.1 hg
    simp only [List.mapM_cons, bind_assoc, pure_bind, List.map_cons, List.sum_cons, Nat.add_assoc]
    refine hitem.bind fun result => ih hitems fun results hresults => hf _ ?_
    rw [List.length_cons, List.length_cons, hresults]

theorem takes_forM {γ : Type} {items : List γ} {g : γ → SharedBuilder PUnit} {cost : γ → ℕ}
    (hg : ∀ item, Takes (cost item) (g item)) : Takes (items.map cost).sum (items.forM g) := by
  induction items with
  | nil => exact takes_pure _
  | cons item items ih =>
    have hforM : (item :: items).forM g = g item >>= fun _ => items.forM g := rfl
    rw [hforM, List.map_cons, List.sum_cons]
    exact (hg item).bind fun _ => ih

theorem takes_foldlM {γ : Type} {items : List γ} {g : α → γ → SharedBuilder α}
    (hg : ∀ a item, Takes n (g a item)) (a : α) : Takes (n * items.length) (items.foldlM g a) := by
  induction items generalizing a with
  | nil => exact takes_pure a
  | cons item items ih =>
    rw [List.foldlM_cons, List.length_cons, Nat.mul_succ, Nat.add_comm]
    exact (hg a item).bind ih

end SharedBuilder

/-! ### Sets -/

/-- Sequences are grouped without any being counted twice. -/
theorem length_groupFirst (sequences : List (List ByteRange)) :
    (groupFirst sequences).length ≤ sequences.length ∧
      ((groupFirst sequences).map fun g => g.2.length).sum ≤ sequences.length := by
  fun_induction groupFirst sequences with
  | case1 => simp
  | case2 rest ih => exact ⟨by simp; omega, by simp; omega⟩
  | case3 r tail rest tails groups hgroups ih =>
    rw [hgroups] at ih
    simp at ih ⊢
    omega
  | case4 r tail rest t tails groups hgroups hne ih =>
    rw [hgroups] at ih
    simp at ih ⊢
    omega
  | case5 r tail rest hgroups ih => simp

/-- A sequence of ranges takes a state and an arrow for each of its bytes at most. -/
theorem takes_sequencesState (target length : ℕ) (sequences : List (List ByteRange)) :
    SharedBuilder.Takes (40 * length * sequences.length)
      (sequencesState target length sequences) := by
  induction length generalizing sequences with
  | zero =>
    rw [sequencesState]
    exact (SharedBuilder.takes_pure target).mono (Nat.zero_le _)
  | succ length ih =>
    rw [sequencesState]
    split_ifs with hempty
    · exact (SharedBuilder.takes_pure target).mono (Nat.zero_le _)
    · have hne : 0 < sequences.length := by
        refine List.length_pos_iff.2 ?_
        rintro rfl
        exact hempty rfl
      obtain ⟨hgroups, htails⟩ := length_groupFirst sequences
      have harrows : ∀ group ∈ groupFirst sequences, SharedBuilder.Takes
          (40 * length * group.2.length) (do
            return (group.1, ← sequencesState target length group.2)) := fun group _ =>
        (ih group.2).bind fun next => SharedBuilder.takes_pure (group.1, next)
      have htotal : ((groupFirst sequences).map fun g => 40 * length * g.2.length).sum ≤
          40 * length * sequences.length := by
        rw [List.sum_map_mul_left]
        exact Nat.mul_le_mul_left _ htails
      refine (SharedBuilder.takes_mapM_bind (k := 40 * sequences.length) harrows
        fun arrows hlength => (SharedBuilder.takes_state _ _ _ _).mono ?_).mono ?_
      · rw [hlength]
        simp only [Size.stateBytes, Size.arrowBytes]
        omega
      · rw [Nat.mul_succ, Nat.add_mul]
        omega

/-- The bytes that the states of a set take at most, in either direction. -/
def setBytes (s : CharSet) : ℕ :=
  2 * Size.stateBytes + Size.arrowBytes * s.ranges.length +
    ((s.ranges.flatMap byteRanges).map fun sequence => 160 + 32 * sequence.length).sum

theorem takes_forwardSet (s : CharSet) : Builder.Takes (setBytes s) (forwardSet s) := by
  have hsequences : 40 * 4 * (s.ranges.flatMap byteRanges).length ≤
      ((s.ranges.flatMap byteRanges).map fun sequence => 160 + 32 * sequence.length).sum := by
    rw [List.sum_map_add, List.map_const', List.sum_replicate, smul_eq_mul]
    omega
  refine ((Builder.takes_state 0).bind fun target =>
    (takes_sequencesState target 4 _ .empty).bind fun _ => Builder.takes_pure ()).mono ?_
  simp only [setBytes, Size.stateBytes]
  omega

theorem takes_backwardSet (s : CharSet) : Builder.Takes (setBytes s) (backwardSet s) := by
  have hsequence : ∀ (target : ℕ) (sequence : List ByteRange),
      SharedBuilder.Takes (160 + 32 * sequence.length) (do
        let _ ← sequence.foldlM rangeState target
        Builder.link true : SharedBuilder Unit) := by
    intro target sequence
    have hrange : ∀ next r, SharedBuilder.Takes 32 (rangeState next r) := fun next r =>
      SharedBuilder.takes_state _ _ _ 0
    refine ((SharedBuilder.takes_foldlM hrange target).bind fun _ =>
      SharedBuilder.takes_lift (Builder.takes_link true)).mono ?_
    simp only [Size.branchBytes]
    omega
  refine ((Builder.takes_state 0).bind fun _ => (Builder.takes_state 0).bind fun target =>
    (SharedBuilder.takes_forM (hsequence target) .empty).bind fun _ =>
      Builder.takes_pure ()).mono ?_
  simp only [setBytes, Size.stateBytes]
  omega

/-- **The states of a set take a bounded number of bytes**, however many of them are shared. -/
theorem takes_setStates (d : Direction) (s : CharSet) :
    Builder.Takes (setBytes s) (setStates d s) := by
  unfold setStates
  split_ifs
  · refine ((Builder.takes_state 0).bind fun _ =>
      (Builder.takes_state _).bind fun _ => Builder.takes_pure ()).mono ?_
    simp only [setBytes, Size.stateBytes]
    omega
  · cases d with
    | forward => exact takes_forwardSet s
    | backward => exact takes_backwardSet s

end Automaton

/-! ### Regular expressions -/

open Automaton

variable {n : ℕ} {d : Direction} {r sub : Regex}

theorem takes_look (l : Look) : Builder.Takes Size.stateBytes (build d (.look l)) := by
  have hbuild : build d (.look l) = (do
      let _ ← Builder.state 0
      return false) := rfl
  rw [hbuild]
  exact (Builder.takes_state 0).bind fun _ => Builder.takes_pure false

/-- A literal takes a state for each of its bytes. -/
theorem takes_literal (cs : List Char) :
    Builder.Takes (Size.stateBytes * Text.byteLength cs) (build d (.literal cs)) := by
  have hlength : (literalBytes d cs).length = Text.byteLength cs := by
    cases d with
    | forward => exact Text.length_flatMap_utf8EncodeChar cs
    | backward => exact List.length_reverse.trans (Text.length_flatMap_utf8EncodeChar cs)
  have hbuild : build d (.literal cs) = (do
      Builder.grow ⟨(literalBytes d cs).length, 0⟩
      return false) := rfl
  rw [hbuild, hlength]
  exact ((Builder.takes_grow _).bind fun _ => Builder.takes_pure false).mono
    (by simp [Size.bytes])

theorem takes_set (bytes : Bool) (s : CharSet) :
    Builder.Takes (setBytes s) (build d (.set bytes s)) := by
  have hbuild : build d (.set bytes s) = (do
      setStates d s
      return false) := rfl
  rw [hbuild]
  exact (takes_setStates d s).bind fun _ => Builder.takes_pure false

theorem takes_group (h : Builder.Takes n (build d sub)) (number : ℕ) :
    Builder.Takes (n + 100) (build d (.group number sub)) := by
  cases d with
  | forward =>
    have hbuild : build .forward (.group number sub) = (do
        let _ ← Builder.state 0
        let fromChoice ← build .forward sub
        let _ ← Builder.state 0
        Builder.link fromChoice
        return false) := rfl
    rw [hbuild]
    refine ((Builder.takes_state 0).bind fun _ => h.bind fun fromChoice =>
      (Builder.takes_state 0).bind fun _ => (Builder.takes_link fromChoice).bind fun _ =>
        Builder.takes_pure false).mono ?_
    simp only [Size.stateBytes, Size.branchBytes]
    omega
  | backward =>
    have hbuild : build .backward (.group number sub) = build .backward sub := rfl
    rw [hbuild]
    exact h.mono (Nat.le_add_right n 100)

/-- An optional part. -/
theorem takes_optional (h : Builder.Takes n (build d sub)) (greedy : Bool) :
    Builder.Takes (n + 100) (build d (.repetition 0 (some 1) greedy sub)) := by
  have hbuild : build d (.repetition 0 (some 1) greedy sub) = (do
      let _ ← Builder.state (2 * Size.branchBytes)
      Builder.link (← build d sub)
      let _ ← Builder.state 0
      return false) := rfl
  rw [hbuild]
  refine ((Builder.takes_state _).bind fun _ => h.bind fun fromChoice =>
    (Builder.takes_link fromChoice).bind fun _ => (Builder.takes_state 0).bind fun _ =>
      Builder.takes_pure false).mono ?_
  simp only [Size.stateBytes, Size.branchBytes]
  omega

/-- A part that is repeated without a bound and always matches a character. -/
theorem takes_star (h : Builder.Takes n (build d sub)) (hconsumes : sub.consumes = true)
    (greedy : Bool) : Builder.Takes (n + 100) (build d (.repetition 0 none greedy sub)) := by
  have hbuild : build d (.repetition 0 none greedy sub) =
      repetitionStates 0 none sub.consumes (build d sub) := rfl
  rw [hbuild, hconsumes]
  refine ((Builder.takes_state _).bind fun _ => h.bind fun fromChoice =>
    (Builder.takes_link fromChoice).bind fun _ => Builder.takes_pure true).mono ?_
  simp only [Size.stateBytes, Size.branchBytes]
  omega

/-- Parts in a row take what each of them takes, and a link. -/
theorem takes_concat {cost : Regex → ℕ} {rs : List Regex}
    (h : ∀ r ∈ rs, Builder.Takes (cost r) (build d r)) :
    Builder.Takes (rs.map fun r => cost r + Size.branchBytes).sum (build d (.concat rs)) := by
  cases d with
  | forward =>
    have hbuild : ∀ rs, build .forward (.concat rs) = buildForward .forward rs := fun _ => rfl
    rw [hbuild]
    induction rs with
    | nil => exact Builder.takes_pure false
    | cons r rs ih =>
      obtain ⟨hr, hrs⟩ := List.forall_mem_cons.1 h
      rw [buildForward, List.map_cons, List.sum_cons, Nat.add_assoc]
      refine hr.bind fun fromChoice => ?_
      split_ifs
      · exact (Builder.takes_pure fromChoice).mono (Nat.zero_le _)
      · exact (Builder.takes_link fromChoice).bind fun _ => ih hrs
  | backward =>
    have hbuild : ∀ rs, build .backward (.concat rs) = buildBackward .backward rs := fun _ => rfl
    rw [hbuild]
    induction rs with
    | nil => exact Builder.takes_pure false
    | cons r rs ih =>
      obtain ⟨hr, hrs⟩ := List.forall_mem_cons.1 h
      rw [buildBackward, List.map_cons, List.sum_cons]
      split_ifs
      · exact hr.mono (by omega)
      · refine ((ih hrs).bind fun fromChoice =>
          (Builder.takes_link fromChoice).bind fun _ => hr).mono ?_
        omega

theorem takes_automaton (h : Builder.Takes n (build d r)) :
    Builder.Takes (n + 300) (automaton d r) := by
  have hend : ∀ {body : Regex}, Builder.Takes (n + 100) (build d body) →
      Builder.Takes (n + 140) (do
        let fromChoice ← build d body
        let _ ← Builder.state 0
        Builder.link fromChoice) := by
    intro body hbody
    refine (hbody.bind fun fromChoice => (Builder.takes_state 0).bind fun _ =>
      Builder.takes_link fromChoice).mono ?_
    simp only [Size.stateBytes, Size.branchBytes]
    omega
  -- an unanchored automaton begins with a loop of three states
  have hstart : ∀ {rest : Builder Unit}, Builder.Takes (n + 140) rest →
      Builder.Takes (n + 300) (if r.isAnchored d then do
        let _ ← Builder.state 0
        rest
      else do
        let _ ← Builder.state (2 * Size.branchBytes)
        let _ ← Builder.state 0
        let _ ← Builder.state Size.arrowBytes
        rest) := by
    intro rest hrest
    split_ifs
    · refine ((Builder.takes_state 0).bind fun _ => hrest).mono ?_
      simp only [Size.stateBytes]
      omega
    · refine ((Builder.takes_state _).bind fun _ => (Builder.takes_state 0).bind fun _ =>
        (Builder.takes_state _).bind fun _ => hrest).mono ?_
      simp only [Size.stateBytes, Size.branchBytes, Size.arrowBytes]
      omega
  cases d with
  | forward => exact hstart (hend (takes_group h 0))
  | backward => exact hstart (hend (h.mono (Nat.le_add_right n 100)))

/-- **A regular expression with room to spare in both directions is small enough.** -/
theorem fits_of_takes (h : ∀ d, Builder.Takes n (build d r)) (hn : n + 300 ≤ Size.maxBytes) :
    r.fits = true := by
  have hbuilt : ∀ d, ((automaton d r).run .zero).isSome = true := by
    intro d
    obtain ⟨a, after, hrun, -⟩ := takes_automaton (h d) .zero (by simpa [Size.bytes, Size.zero])
    rw [hrun]
    rfl
  rw [fits, hbuilt .forward, hbuilt .backward]
  simp

end ContentBlocking.Regex
