import ContentBlocking.Proofs.Blocker.Edits
import ContentBlocking.Proofs.Blocker.Start
import ContentBlocking.Proofs.Compiler.Memory
import Mathlib.Logic.Relation

/-!
# Calls that run at the same time

Any number of edits of allow-lists and of starts may be on their way at once.  An edit changes its
allow-list at once; only the pass that recompiles its lists waits for a lock, and so does the
compiler's startup.  A pass takes the rules of all allow-lists when it gets the lock, and other
edits may come before it is done.

`Process.Step` is one step of such a run.  A kind is *pending* while a call sits between its edit of
that kind and the end of its own pass.  The invariant (`Process.Sound`): the lists of every kind
that is not pending are what their bundled texts compile to with the rule that the allow-list has
now, and the rules that a pass has taken are still right for every kind that no edit waits for.  At
rest all lists are right (`Process.lists_of_rest`).
-/

namespace ContentBlocking

open Relation (ReflTransGen)

/-- What a call does while it holds the lock. -/
inductive Pass
  | startup
  | recompile (kind : AllowList.Kind) (lists : List Blocklist)

namespace Pass

/-- The compiler after a pass with some rules. -/
def compile (pass : Pass) (c : Compiler) (rules : AllowRules) :
    Except BrokenList (CompileReport × Compiler) :=
  match pass with
  | startup => c.startup rules
  | recompile _ lists => c.invalidate lists rules

/-- The blocker after a pass with some rules. -/
def run (pass : Pass) (b : Blocker) (rules : AllowRules) :
    Except BrokenList (CompileReport × Blocker) := do
  let (report, compiler) ← pass.compile b.compiler rules
  return (report, { b with compiler })

/-- Nothing on the way of a pass fails because of the disk. -/
def RunsSmoothly (pass : Pass) (c : Compiler) (rules : AllowRules) : Prop :=
  match pass with
  | startup => c.StartsSmoothly rules
  | recompile _ lists => c.InvalidatesSmoothly lists rules

/-- A pass drops a list. -/
def Drops (pass : Pass) (c : Compiler) (l : Blocklist) : Prop :=
  match pass with
  | startup => c.Purges
  | recompile _ lists => l ∈ lists

/-- The blocker after the rest of a call. -/
def finish (pass : Pass) (b : Blocker) : Blocker :=
  match pass with
  | startup => ({ b with setupCompleted := true }.emit .setupCompleted).emit .setupRequired
  | recompile .. => b.announce

end Pass

/-- How far a call has come. -/
inductive Call
  /-- Edited or loaded, and before its pass. -/
  | waiting (pass : Pass)
  /-- In its pass, with the rules that it took. -/
  | working (pass : Pass) (rules : AllowRules)
  /-- After its pass. -/
  | finishing (pass : Pass)

/-- A call holds the lock. -/
def Call.HoldsLock : Call → Prop
  | working .. => True
  | _ => False

/-- A call sits between an edit and the end of its pass. -/
def Call.IsEdit : Call → Prop
  | waiting (.recompile ..) | working (.recompile ..) _ => True
  | _ => False

/-- A blocker and the calls that are on their way. -/
structure Process where
  blocker : Blocker
  calls : List Call
  /-- Some pass has ended. -/
  ran : Bool

namespace Process

/-- A blocker before the first call. -/
def initial (b : Blocker) : Process := ⟨b, [], false⟩

/-- One step of one call.  Nothing fails because of the disk. -/
inductive Step : Process → Process → Prop
  | edit {p : Process} {k : AllowList.Kind} {enabled : Bool} {url : String}
      {lists : List Blocklist} {b : Blocker} (h : p.blocker.edit k enabled url = (some lists, b)) :
      Step p ⟨b, .waiting (.recompile k lists) :: p.calls, p.ran⟩
  | ignore {p : Process} {k : AllowList.Kind} {enabled : Bool} {url : String} {b : Blocker}
      (h : p.blocker.edit k enabled url = (none, b)) : Step p ⟨b, p.calls, p.ran⟩
  | load {p : Process} :
      Step p ⟨p.blocker.loadSuffixes.loadDatabase, .waiting .startup :: p.calls, p.ran⟩
  | lock {b : Blocker} (xs ys : List Call) {pass : Pass} {ran : Bool}
      (h : ∀ call ∈ xs ++ ys, ¬call.HoldsLock) :
      Step ⟨b, xs ++ .waiting pass :: ys, ran⟩
        ⟨b, xs ++ .working pass b.allowLists.rules :: ys, ran⟩
  | unlock {b b' : Blocker} (xs ys : List Call) {pass : Pass} {rules : AllowRules} {ran : Bool}
      {report : CompileReport} (hsmooth : pass.RunsSmoothly b.compiler rules)
      (h : pass.run b rules = .ok (report, b')) :
      Step ⟨b, xs ++ .working pass rules :: ys, ran⟩ ⟨b', xs ++ .finishing pass :: ys, true⟩
  | finish {b : Blocker} (xs ys : List Call) {pass : Pass} {ran : Bool} :
      Step ⟨b, xs ++ .finishing pass :: ys, ran⟩ ⟨pass.finish b, xs ++ ys, ran⟩

/-- An edit of a kind waits for the lock. -/
def Awaited (p : Process) (k : AllowList.Kind) : Prop :=
  ∃ lists, .waiting (.recompile k lists) ∈ p.calls

/-- A call sits between its edit of a kind and the end of its pass. -/
def Pending (p : Process) (k : AllowList.Kind) : Prop :=
  p.Awaited k ∨ ∃ lists rules, .working (.recompile k lists) rules ∈ p.calls

/-- What a list should be: missing before the first pass, and then what it compiles to. -/
def target (texts : Blocklist → String) (p : Process) (l : Blocklist) : Option (List Rule) :=
  if p.ran then l.compiled? (texts l) (p.blocker.allowLists.rules l.kind) else none

/-- The invariant of runs. -/
structure Sound (texts : Blocklist → String) (documents : String) (p : Process) : Prop where
  separate : p.blocker.compiler.Separate
  serves : p.blocker.compiler.Serves texts
  documented : p.blocker.Documented documents
  dependents : ∀ {k lists}, .waiting (.recompile k lists) ∈ p.calls ∨
    (∃ rules, .working (.recompile k lists) rules ∈ p.calls) → lists = k.dependents
  snapshot : ∀ {pass rules}, .working pass rules ∈ p.calls → ∀ {k}, ¬p.Awaited k →
    rules k = p.blocker.allowLists.rules k
  settled : ∀ {l : Blocklist}, ¬p.Pending l.kind → p.blocker.compiler.Has l (p.target texts l)

variable {texts : Blocklist → String} {documents : String} {p p' : Process}

/-! ### Steps that change no allow-list -/

theorem mem_middle {xs ys : List Call} {call c : Call} :
    c ∈ xs ++ call :: ys ↔ c = call ∨ c ∈ xs ++ ys := by
  simp only [List.mem_append, List.mem_cons]
  tauto

/-- Only the compiler and the allow-lists of a blocker are of account. -/
theorem Sound.congr (h : p.Sound texts documents) {b : Blocker}
    (hcompiler : b.compiler = p.blocker.compiler) (hlists : b.allowLists = p.blocker.allowLists) :
    Sound texts documents ⟨b, p.calls, p.ran⟩ where
  separate := by rw [hcompiler]; exact h.separate
  serves := by rw [hcompiler]; exact h.serves
  documented := by rw [Blocker.Documented, hlists]; exact h.documented
  dependents := h.dependents
  snapshot hcall k hk := by rw [hlists]; exact h.snapshot hcall hk
  settled hl := by
    simp only [target, hcompiler, hlists]
    exact h.settled hl

/-- A call that neither edits nor holds the lock is of no account. -/
theorem Sound.of_calls (h : p.Sound texts documents) {calls : List Call}
    (hwaiting : ∀ {k lists}, .waiting (.recompile k lists) ∈ calls ↔
      .waiting (.recompile k lists) ∈ p.calls)
    (hworking : ∀ {pass rules}, .working pass rules ∈ calls ↔ .working pass rules ∈ p.calls) :
    Sound texts documents ⟨p.blocker, calls, p.ran⟩ where
  separate := h.separate
  serves := h.serves
  documented := h.documented
  dependents hcall := by
    simp only [hwaiting, hworking] at hcall
    exact h.dependents hcall
  snapshot hcall k hk := by
    simp only [Awaited, hwaiting] at hk
    exact h.snapshot (hworking.1 hcall) hk
  settled {l} hl := by
    simp only [Pending, Awaited, hwaiting, hworking] at hl
    exact h.settled hl

theorem sound_load (h : p.Sound texts documents) :
    Sound texts documents
      ⟨p.blocker.loadSuffixes.loadDatabase, .waiting .startup :: p.calls, p.ran⟩ := by
  have hloaded := h.congr (b := p.blocker.loadSuffixes.loadDatabase)
    p.blocker.compiler_loadSuffixes p.blocker.allowLists_loadSuffixes
  exact hloaded.of_calls (by simp) (by simp)

theorem sound_finish {b : Blocker} {xs ys : List Call} {pass : Pass} {ran : Bool}
    (h : Sound texts documents ⟨b, xs ++ .finishing pass :: ys, ran⟩) :
    Sound texts documents ⟨pass.finish b, xs ++ ys, ran⟩ := by
  have hcalls : Sound texts documents ⟨b, xs ++ ys, ran⟩ := h.of_calls (by simp) (by simp)
  cases pass with
  | startup => exact hcalls.congr rfl rfl
  | recompile k lists => exact hcalls.congr rfl rfl

/-! ### The lock -/

theorem sound_lock {b : Blocker} {xs ys : List Call} {pass : Pass} {ran : Bool}
    (hlock : ∀ call ∈ xs ++ ys, ¬call.HoldsLock)
    (h : Sound texts documents ⟨b, xs ++ .waiting pass :: ys, ran⟩) :
    Sound texts documents ⟨b, xs ++ .working pass b.allowLists.rules :: ys, ran⟩ where
  separate := h.separate
  serves := h.serves
  documented := h.documented
  dependents {k lists} hcall := by
    refine h.dependents (.inl ?_)
    rcases hcall with hcall | ⟨rules, hcall⟩
    · rcases mem_middle.1 hcall with heq | hmem
      · cases heq
      · exact mem_middle.2 (.inr hmem)
    · rcases mem_middle.1 hcall with heq | hmem
      · cases heq
        exact mem_middle.2 (.inl rfl)
      · -- no other call works, for it would hold the lock
        exact absurd trivial (hlock _ hmem)
  snapshot {pass' rules} hcall k hk := by
    rcases mem_middle.1 hcall with heq | hmem
    · cases heq
      rfl
    · exact absurd trivial (hlock _ hmem)
  settled {l} hl := by
    refine h.settled fun hpending => hl ?_
    rcases hpending with ⟨lists, hcall⟩ | ⟨lists, rules, hcall⟩
    · rcases mem_middle.1 hcall with heq | hmem
      · cases heq
        exact .inr ⟨lists, _, mem_middle.2 (.inl rfl)⟩
      · exact .inl ⟨lists, mem_middle.2 (.inr hmem)⟩
    · rcases mem_middle.1 hcall with heq | hmem
      · cases heq
      · exact absurd trivial (hlock _ hmem)

/-! ### Edits -/

theorem sound_edit (h : p.Sound texts documents) {k : AllowList.Kind} {enabled : Bool}
    {url : String} {lists : List Blocklist} {b : Blocker}
    (hedit : p.blocker.edit k enabled url = (some lists, b)) :
    Sound texts documents ⟨b, .waiting (.recompile k lists) :: p.calls, p.ran⟩ := by
  have hedited := Blocker.edited_of_edit h.documented hedit
  refine ⟨hedited.separate h.separate, hedited.serves h.serves, hedited.documented, ?_, ?_, ?_⟩
  · intro j lists' hcall
    by_cases hold : .waiting (.recompile j lists') ∈ p.calls ∨
        ∃ rules, .working (.recompile j lists') rules ∈ p.calls
    · exact h.dependents hold
    · have hnew : lists' = lists ∧ j = k := by
        simp only [List.mem_cons, Call.waiting.injEq, Pass.recompile.injEq, reduceCtorEq,
          false_or] at hcall
        tauto
      obtain ⟨rfl, rfl⟩ := hnew
      rw [(Blocker.edit_some hedit).1, (h.documented j).1]
  · intro pass rules hcall j hj
    have hne : j ≠ k := by
      rintro rfl
      exact hj ⟨lists, List.mem_cons_self⟩
    have hmem : .working pass rules ∈ p.calls := by simpa using hcall
    -- the pass that holds the lock took its rules before this edit, which is of another kind
    have hj' : ¬p.Awaited j := fun ⟨lists', hmem'⟩ => hj ⟨lists', List.mem_cons_of_mem _ hmem'⟩
    exact (h.snapshot hmem hj').trans (hedited.rules hne).symm
  · intro l hl
    have hne : l.kind ≠ k := fun heq => hl (.inl ⟨lists, heq ▸ List.mem_cons_self⟩)
    have hl' : ¬p.Pending l.kind := by
      rintro (⟨lists', hmem⟩ | ⟨lists', rules, hmem⟩)
      · exact hl (.inl ⟨lists', List.mem_cons_of_mem _ hmem⟩)
      · exact hl (.inr ⟨lists', rules, List.mem_cons_of_mem _ hmem⟩)
    have hhas := hedited.has (h.settled hl')
    rw [target] at hhas ⊢
    rw [hedited.rules hne]
    exact hhas

/-! ### The end of a pass -/

theorem exists_run {b : Blocker} {pass : Pass} {rules : AllowRules} (hs : b.compiler.Separate)
    (ht : b.compiler.Serves texts) (hr : Compiler.Readable texts)
    (hsmooth : pass.RunsSmoothly b.compiler rules) :
    ∃ report c', pass.run b rules = .ok (report, { b with compiler := c' }) ∧
      Compiler.Refreshed texts rules (pass.Drops b.compiler) b.compiler report c' := by
  cases pass with
  | startup =>
    obtain ⟨report, c', hrun, -, -, hrefreshed⟩ := Compiler.exists_startup hs ht hr hsmooth
    refine ⟨report, c', ?_, hrefreshed⟩
    rw [Pass.run, Pass.compile, hrun]
    rfl
  | recompile k lists =>
    obtain ⟨report, c', hrun, -, hrefreshed⟩ := Compiler.exists_invalidate hs ht hr hsmooth
    refine ⟨report, c', ?_, hrefreshed⟩
    rw [Pass.run, Pass.compile, hrun]
    rfl

theorem mem_of_working {xs ys : List Call} {pass : Pass} {call c : Call}
    (h : c ∈ xs ++ .finishing pass :: ys) (hc : c ≠ .finishing pass) : c ∈ xs ++ call :: ys :=
  mem_middle.2 (.inr ((mem_middle.1 h).resolve_left hc))

theorem sound_unlock {b b' : Blocker} {xs ys : List Call} {pass : Pass} {rules : AllowRules}
    {ran : Bool} {report : CompileReport} (hr : Compiler.Readable texts)
    (h : Sound texts documents ⟨b, xs ++ .working pass rules :: ys, ran⟩)
    (hsmooth : pass.RunsSmoothly b.compiler rules) (hrun : pass.run b rules = .ok (report, b')) :
    Sound texts documents ⟨b', xs ++ .finishing pass :: ys, true⟩ := by
  obtain ⟨report', c', hrun', hrefreshed⟩ := exists_run h.separate h.serves hr hsmooth
  obtain ⟨rfl, rfl⟩ := Prod.mk.inj (Except.ok.inj (hrun.symm.trans hrun'))
  -- the rules that the pass took are those of the allow-lists now, for all kinds but awaited ones
  have hawaited : ∀ {k}, ¬Awaited ⟨{ b with compiler := c' }, xs ++ .finishing pass :: ys, true⟩ k →
      ¬Awaited ⟨b, xs ++ .working pass rules :: ys, ran⟩ k := by
    rintro k hk ⟨lists, hmem⟩
    refine hk ⟨lists, mem_middle.2 (.inr ((mem_middle.1 hmem).resolve_left (by simp)))⟩
  have hrules : ∀ {k}, ¬Awaited ⟨{ b with compiler := c' }, xs ++ .finishing pass :: ys, true⟩ k →
      rules k = b.allowLists.rules k := fun hk =>
    h.snapshot (mem_middle.2 (.inl rfl)) (hawaited hk)
  refine ⟨hrefreshed.separate, hrefreshed.serves, h.documented, ?_, ?_, ?_⟩
  · rintro k lists (hmem | ⟨rules', hmem⟩)
    · exact h.dependents (.inl (mem_of_working hmem (by simp)))
    · exact h.dependents (.inr ⟨rules', mem_of_working hmem (by simp)⟩)
  · intro pass' rules' hmem k hk
    exact h.snapshot (mem_of_working hmem (by simp)) (hawaited hk)
  · intro l hl
    have hcurrent := hrules fun hk => hl (.inl hk)
    rw [target, if_pos rfl]
    rw [← hcurrent]
    by_cases hfresh : pass.Drops b.compiler l ∨ b.compiler.Has l none
    · exact hrefreshed.fresh hfresh
    · obtain ⟨hdrop, hpresent⟩ := not_or.1 hfresh
      have hl' : ¬Pending ⟨b, xs ++ .working pass rules :: ys, ran⟩ l.kind := by
        rintro (hk | ⟨lists, rules', hmem⟩)
        · exact hawaited (fun hk' => hl (.inl hk')) hk
        · rcases mem_middle.1 hmem with heq | hmem'
          · -- the pass itself drops the lists of its kind
            obtain ⟨rfl, rfl⟩ := Call.working.inj heq
            obtain rfl := h.dependents (.inr ⟨rules', hmem⟩)
            exact hdrop (AllowList.Kind.mem_dependents.2 rfl)
          · exact hl (.inr ⟨lists, rules', mem_middle.2 (.inr hmem')⟩)
      have hhas := h.settled hl'
      cases ran with
      | false => exact absurd hhas hpresent
      | true =>
        rw [target, if_pos rfl] at hhas
        rw [hcurrent]
        exact hrefreshed.kept hdrop hpresent hhas

/-! ### Runs -/

theorem sound_initial {config : Config} {compiler : Compiler} {suffixes : Option SuffixList}
    (hs : compiler.Separate) (ht : compiler.Serves texts) (hempty : compiler.StartsEmpty) :
    Sound texts config.documents (initial (.create config compiler suffixes)) where
  separate := hs
  serves := ht
  documented := Blocker.documented_create config compiler suffixes
  dependents := by simp [initial]
  snapshot := by simp [initial]
  settled {l} _ := Compiler.has_none_of_startsEmpty hempty l

theorem sound_step (hr : Compiler.Readable texts) (h : p.Sound texts documents)
    (hstep : Step p p') : p'.Sound texts documents := by
  cases hstep with
  | edit hedit => exact sound_edit h hedit
  | ignore hedit =>
    obtain rfl := Blocker.edit_none hedit
    exact h
  | load => exact sound_load h
  | lock _ _ hlock => exact sound_lock hlock h
  | unlock _ _ hsmooth hrun => exact sound_unlock hr h hsmooth hrun
  | finish _ _ => exact sound_finish h

theorem sound_of_run (hr : Compiler.Readable texts) (h : p.Sound texts documents)
    (hrun : ReflTransGen Step p p') : p'.Sound texts documents := by
  induction hrun with
  | refl => exact h
  | tail _ hstep ih => exact sound_step hr ih hstep

/-- **A pass that got the lock comes to its end.** -/
theorem exists_unlock {b : Blocker} {xs ys : List Call} {pass : Pass} {rules : AllowRules}
    {ran : Bool} (hr : Compiler.Readable texts)
    (h : Sound texts documents ⟨b, xs ++ .working pass rules :: ys, ran⟩)
    (hsmooth : pass.RunsSmoothly b.compiler rules) :
    ∃ b', Step ⟨b, xs ++ .working pass rules :: ys, ran⟩
      ⟨b', xs ++ .finishing pass :: ys, true⟩ := by
  obtain ⟨report, c', hrun, -⟩ := exists_run h.separate h.serves hr hsmooth
  exact ⟨_, .unlock xs ys hsmooth hrun⟩

/-- An edit without other calls is one run of the steps. -/
theorem run_of_setAllowListed {b b' : Blocker} {k : AllowList.Kind} {enabled : Bool} {url : String}
    {lists : List Blocklist} (ran : Bool) (hedit : (b.edit k enabled url).1 = some lists)
    (hsmooth : (b.edit k enabled url).2.compiler.InvalidatesSmoothly lists
      (b.edit k enabled url).2.allowLists.rules)
    (h : b.setAllowListed k enabled url = .ok (true, b')) :
    ReflTransGen Step ⟨b, [], ran⟩ ⟨b', [], true⟩ := by
  cases heq : b.edit k enabled url with
  | mk o b₁ =>
    rw [heq] at hedit hsmooth
    obtain rfl : o = some lists := hedit
    rw [Blocker.setAllowListed, heq] at h
    obtain ⟨⟨report, b₂⟩, hrun, hb'⟩ := bind_eq_ok.1 h
    obtain rfl : b₂.announce = b' := (Prod.mk.inj (Except.ok.inj hb')).2
    have hlock : Step ⟨b₁, [.waiting (.recompile k lists)], ran⟩
        ⟨b₁, [.working (.recompile k lists) b₁.allowLists.rules], ran⟩ :=
      .lock [] [] (by simp)
    have hunlock : Step ⟨b₁, [.working (.recompile k lists) b₁.allowLists.rules], ran⟩
        ⟨b₂, [.finishing (.recompile k lists)], true⟩ :=
      .unlock [] [] hsmooth hrun
    have hfinish : Step ⟨b₂, [.finishing (.recompile k lists)], true⟩ ⟨b₂.announce, [], true⟩ :=
      .finish [] []
    exact ((((ReflTransGen.refl.tail (.edit heq)).tail hlock).tail hunlock).tail hfinish)

/-- A start without other calls is one run of the steps. -/
theorem run_of_start {b b' : Blocker} {report : CompileReport} (ran : Bool)
    (hsmooth : b.compiler.StartsSmoothly b.allowLists.rules) (h : b.start = .ok (report, b')) :
    ReflTransGen Step ⟨b, [], ran⟩ ⟨b', [], true⟩ := by
  obtain ⟨c, hrun, rfl⟩ := Blocker.start_eq_ok.1 h
  let b₀ : Blocker := b.loadSuffixes.loadDatabase
  have hcompiler : b₀.compiler = b.compiler := b.compiler_loadSuffixes
  have hlists : b₀.allowLists = b.allowLists := b.allowLists_loadSuffixes
  have hlock : Step ⟨b₀, [.waiting .startup], ran⟩
      ⟨b₀, [.working .startup b₀.allowLists.rules], ran⟩ := .lock [] [] (by simp)
  have hsmooth₀ : Pass.startup.RunsSmoothly b₀.compiler b₀.allowLists.rules := by
    rw [hcompiler, hlists]
    exact hsmooth
  have hrun₀ : Pass.startup.run b₀ b₀.allowLists.rules =
      .ok (report, { b₀ with compiler := c }) := by
    rw [Pass.run, Pass.compile, hcompiler, hlists, hrun]
    rfl
  have hunlock : Step ⟨b₀, [.working .startup b₀.allowLists.rules], ran⟩
      ⟨{ b₀ with compiler := c }, [.finishing .startup], true⟩ := .unlock [] [] hsmooth₀ hrun₀
  exact (((ReflTransGen.refl.tail .load).tail hlock).tail hunlock).tail (.finish [] [])

/-! ### Stores in memory -/

theorem runsSmoothly_of_memory {c : Compiler} (h : c.store.dir? = none) (pass : Pass)
    (rules : AllowRules) : pass.RunsSmoothly c rules := by
  cases pass with
  | startup => exact Compiler.startsSmoothly_of_memory h rules
  | recompile k lists => exact Compiler.invalidatesSmoothly_of_memory h lists rules

theorem dir?_run {b b' : Blocker} {pass : Pass} {rules : AllowRules} {report : CompileReport}
    (h : pass.run b rules = .ok (report, b')) :
    b'.compiler.store.dir? = b.compiler.store.dir? := by
  rw [Pass.run] at h
  obtain ⟨⟨report', c'⟩, hrun, h⟩ := bind_eq_ok.1 h
  obtain ⟨-, rfl⟩ := Prod.mk.inj (Except.ok.inj h)
  cases pass with
  | startup => exact Compiler.dir?_startup hrun
  | recompile k lists => exact Compiler.dir?_invalidate hrun

/-! ### Rest -/

/-- No call sits between an edit and the end of its pass, and some pass has ended. -/
def AtRest (p : Process) : Prop := (∀ call ∈ p.calls, ¬call.IsEdit) ∧ p.ran = true

theorem not_pending_of_atRest (h : p.AtRest) (k : AllowList.Kind) : ¬p.Pending k := by
  rintro (⟨lists, hmem⟩ | ⟨lists, rules, hmem⟩)
  · exact h.1 _ hmem trivial
  · exact h.1 _ hmem trivial

/-- **At rest every list is right.**  Whatever the order of the steps, a list that can be looked up
holds the rules of its bundled text and of its allow-list as it is now, and the bundled text of a
list that cannot be looked up is no rule list. -/
theorem lists_of_rest {config : Config} {compiler : Compiler} {suffixes : Option SuffixList}
    {texts : Blocklist → String} {p : Process} (hs : compiler.Separate)
    (ht : compiler.Serves texts) (hr : Compiler.Readable texts) (hempty : compiler.StartsEmpty)
    (hrun : ReflTransGen Step (initial (.create config compiler suffixes)) p) (hrest : p.AtRest)
    (l : Blocklist) :
    (∀ rules, p.blocker.compiler.store.lookup l.filename p.blocker.disk = .ok rules →
      ∃ source, RuleList.synthesize (texts l) (p.blocker.allowLists.rules l.kind) l.isCosmetic =
        .ok source ∧ RuleList.ofText source = .ok rules) ∧
    ((∀ rules, p.blocker.compiler.store.lookup l.filename p.blocker.disk ≠ .ok rules) →
      ∃ e, RuleList.ofText (texts l) = .error e) := by
  have hsound := sound_of_run hr (sound_initial hs ht hempty) hrun
  have hhas := hsound.settled (not_pending_of_atRest hrest l.kind)
  rw [target, if_pos hrest.2] at hhas
  constructor
  · intro rules hlookup
    have hholds : p.blocker.compiler.Has l (some rules) := hlookup
    exact Blocklist.compiled?_eq_some_iff.1 (hhas.unique hholds)
  · intro hmissing
    cases htext : RuleList.ofText (texts l) with
    | error e => exact ⟨e, rfl⟩
    | ok rules =>
      obtain ⟨items, hitems⟩ := hr l
      have hcompiled := RuleList.ofText_synthesize hitems htext
        (p.blocker.allowLists.get l.kind).domains l.isCosmetic
      rw [AllowLists.rules, Blocklist.compiled?_eq_some_iff.2 hcompiled] at hhas
      exact absurd hhas (hmissing _)

/-- An edit may come between the rules that a start takes and its end. -/
theorem lists_of_rest_of_overlap :
    ∃ p, ReflTransGen Step (initial (.create .standard (.uniform "[]" ⟨0⟩) none)) p ∧ p.AtRest ∧
      ∀ l : Blocklist,
        (∀ rules, p.blocker.compiler.store.lookup l.filename p.blocker.disk = .ok rules →
          ∃ source, RuleList.synthesize "[]" (p.blocker.allowLists.rules l.kind) l.isCosmetic =
            .ok source ∧ RuleList.ofText source = .ok rules) ∧
        ((∀ rules, p.blocker.compiler.store.lookup l.filename p.blocker.disk ≠ .ok rules) →
          ∃ e, RuleList.ofText "[]" = .error e) := by
  have hs := Compiler.separate_uniform "[]" ⟨0⟩
  have ht := Compiler.serves_uniform "[]" ⟨0⟩
  have hr := Compiler.readable_empty
  have hempty := Compiler.startsEmpty_uniform "[]" ⟨0⟩
  -- the start takes its rules
  let b₀ : Blocker := (Blocker.create .standard (.uniform "[]" ⟨0⟩) none).loadSuffixes.loadDatabase
  have htake : ReflTransGen Step (initial (.create .standard (.uniform "[]" ⟨0⟩) none))
      ⟨b₀, [.working .startup b₀.allowLists.rules], false⟩ :=
    (ReflTransGen.single .load).tail (.lock [] [] (by simp))
  -- the edit comes
  let b₁ : Blocker := (b₀.edit .ads true "http://example.com/").2
  let pass : Pass := .recompile .ads AllowList.Kind.ads.dependents
  have hedit : b₀.edit .ads true "http://example.com/" =
      (some AllowList.Kind.ads.dependents, b₁) := by
    refine Prod.ext ?_ rfl
    decide
  have hcome := htake.tail (.edit hedit)
  -- both passes come to their end
  have hsound := sound_of_run hr (sound_initial hs ht hempty) hcome
  obtain ⟨report, c₂, hfirst, hrefreshed⟩ := exists_run hsound.separate hsound.serves
    hr (runsSmoothly_of_memory rfl .startup b₀.allowLists.rules)
  let b₂ : Blocker := { b₁ with compiler := c₂ }
  have hmemory : b₂.compiler.store.dir? = none := dir?_run hfirst
  obtain ⟨report', c₃, hsecond, -⟩ := exists_run hrefreshed.separate hrefreshed.serves
    hr (runsSmoothly_of_memory hmemory pass b₂.allowLists.rules)
  have hstarted := hcome.tail
    (.unlock [.waiting pass] [] (runsSmoothly_of_memory rfl _ _) hfirst)
  have hend := (hstarted.tail
    (.lock [] [.finishing .startup] (by simp [Call.HoldsLock]))).tail
    (.unlock [] [.finishing .startup] (runsSmoothly_of_memory hmemory _ _) hsecond)
  have hrest : AtRest ⟨{ b₂ with compiler := c₃ }, [.finishing pass, .finishing .startup], true⟩ :=
    ⟨by simp [Call.IsEdit], rfl⟩
  exact ⟨_, hend, hrest, lists_of_rest hs ht hr hempty hend hrest⟩

end Process

end ContentBlocking
