import ContentBlocking.Proofs.Success
import ContentBlocking.Site
import Mathlib.Data.List.Basic

/-!
# Remembered sites

A `Site.Resolver` answers from its cache if it can.  The cache cannot be told from the answers: it
is `Site.Resolver.Faithful`, which is to say that each remembered site is what the resolver's list
gives.  A question keeps that whatever it inserts or evicts, and a list that is loaded comes with an
empty cache (`Site.Resolver.Faithful.answer`).  So the answers depend on the history only through
the list that was accepted last (`Site.Resolver.site_after`).
-/

namespace ContentBlocking

/-! ### Caches -/

namespace Lru

variable {c : Lru} {key k value v : String}

@[simp] theorem peek_empty (capacity : ℕ) (key : String) : (empty capacity).peek key = none :=
  Std.ExtTreeMap.getElem?_empty

/-- What is left after an eviction was there before. -/
theorem peek_of_peek_dropOldest (h : c.dropOldest.peek k = some v) : c.peek k = some v := by
  unfold dropOldest at h
  split at h
  · exact h
  · rw [peek, Std.ExtTreeMap.getElem?_erase] at h
    split at h
    · cases h
    · exact h

/-- What is there after an insertion was inserted or was there before. -/
theorem peek_of_peek_insert (h : (c.insert key value).peek k = some v) :
    key = k ∧ value = v ∨ c.peek k = some v := by
  rw [insert, peek, Std.ExtTreeMap.getElem?_insert] at h
  split at h
  · next heq => exact .inl ⟨Std.LawfulEqCmp.eq_of_compare heq, Option.some.inj h⟩
  · refine .inr ?_
    split at h
    · exact peek_of_peek_dropOldest h
    · exact h

end Lru

namespace Site

/-- What can be asked of a resolver. -/
inductive Question
  /-- A list is to be loaded. -/
  | load (text : String)
  | site (host : String)
  | sameSite (a b : String)

/-- What a resolver says. -/
inductive Answer
  | loaded (error? : Option SuffixError)
  | site (host : String)
  | sameSite (same : Bool)
  deriving DecidableEq

/-- The list that a question brings; none if it brings none or one that is rejected. -/
def Question.list? : Question → Option SuffixList
  | .load text => (SuffixList.ofText text).toOption
  | .site _ | .sameSite _ _ => none

/-- Whether a question brings a list that is rejected. -/
def Question.isRejected : Question → Bool
  | .load text => !(SuffixList.ofText text).isOk
  | .site _ | .sameSite _ _ => false

/-- The list that was accepted last. -/
def latestList? (history : List Question) : Option SuffixList :=
  (history.filterMap Question.list?).getLast?

theorem list?_of_isRejected {q : Question} (h : q.isRejected = true) : q.list? = none := by
  cases q with
  | load text =>
    rw [Question.isRejected] at h
    rw [Question.list?]
    cases htext : SuffixList.ofText text with
    | ok list =>
      rw [htext] at h
      cases h
    | error e => rfl
  | site host => rfl
  | sameSite a b => rfl

/-- A list that is rejected is not the one that was accepted last. -/
theorem latestList?_filter (history : List Question) :
    latestList? (history.filter fun q => !q.isRejected) = latestList? history := by
  rw [latestList?, latestList?, List.filterMap_filter]
  congr 1
  refine List.filterMap_congr fun q _ => ?_
  cases h : q.isRejected with
  | true => rw [list?_of_isRejected h]; rfl
  | false => rfl

namespace Resolver

/-- A question is answered; a list that is rejected leaves the resolver as it is. -/
def answer (r : Resolver) : Question → Answer × Resolver
  | .load text =>
    match load text with
    | .ok r' => (.loaded none, r')
    | .error e => (.loaded (some e), r)
  | .site host =>
    let (site, r) := r.site host
    (.site site, r)
  | .sameSite a b =>
    let (same, r) := r.sameSite a b
    (.sameSite same, r)

/-- The resolver after a history of questions. -/
def after (r : Resolver) (history : List Question) : Resolver :=
  history.foldl (fun r q => (r.answer q).2) r

/-- The answers to questions that are asked one after the other. -/
def answers (r : Resolver) : List Question → List Answer
  | [] => []
  | q :: questions => (r.answer q).1 :: (r.answer q).2.answers questions

/-- The answer to a question under a list, with nothing remembered. -/
def plainAnswer (list : Option SuffixList) : Question → Answer
  | .load text =>
    match SuffixList.ofText text with
    | .ok _ => .loaded none
    | .error e => .loaded (some e)
  | .site host => .site (ofHost list host)
  | .sameSite a b => .sameSite (ofHost list a == ofHost list b)

/-- Each remembered site is the one that the list gives. -/
def Faithful (r : Resolver) : Prop :=
  ∀ ⦃key site⦄, r.cache.peek key = some site → site = String.ofList (ofNormal r.list key.toList)

theorem faithful_empty (list : Option SuffixList) : Faithful ⟨list, .empty capacity⟩ := by
  intro key site h
  rw [Lru.peek_empty] at h
  cases h

theorem load_eq (text : String) :
    load text = (SuffixList.ofText text).map fun list => ⟨some list, .empty capacity⟩ := by
  rw [load]
  cases SuffixList.ofText text <;> rfl

@[simp] theorem list_site (r : Resolver) (host : String) : (r.site host).2.list = r.list := by
  simp only [site]
  split <;> rfl

namespace Faithful

variable {r : Resolver}

theorem site_fst (h : r.Faithful) (host : String) : (r.site host).1 = ofHost r.list host := by
  simp only [site]
  split
  · next heq => rw [h heq, String.toList_ofList, ofHost]
  · rfl

theorem site_snd (h : r.Faithful) (host : String) : (r.site host).2.Faithful := by
  simp only [site]
  split
  · exact h
  · intro key site hpeek
    obtain ⟨rfl, rfl⟩ | hpeek := Lru.peek_of_peek_insert hpeek
    · rw [String.toList_ofList]
    · exact h hpeek

theorem sameSite_fst (h : r.Faithful) (a b : String) :
    (r.sameSite a b).1 = (ofHost r.list a == ofHost r.list b) := by
  change ((r.site a).1 == ((r.site a).2.site b).1) = _
  rw [h.site_fst, (h.site_snd a).site_fst, list_site]

/-- **A question to a faithful resolver is answered as if nothing were remembered**, and leaves a
faithful resolver, whose list is the old one if the question brought none. -/
theorem answer (h : r.Faithful) (q : Question) :
    (r.answer q).1 = plainAnswer r.list q ∧ (r.answer q).2.Faithful ∧
      (r.answer q).2.list = q.list?.or r.list := by
  cases q with
  | load text =>
    simp only [Resolver.answer, plainAnswer, Question.list?, load_eq]
    cases SuffixList.ofText text with
    | ok list => exact ⟨rfl, faithful_empty _, rfl⟩
    | error e => exact ⟨rfl, h, rfl⟩
  | site host => exact ⟨congrArg Answer.site (h.site_fst host), h.site_snd host, list_site r host⟩
  | sameSite a b =>
    exact ⟨congrArg Answer.sameSite (h.sameSite_fst a b), (h.site_snd a).site_snd b,
      (list_site _ b).trans (list_site r a)⟩

theorem after (h : r.Faithful) (history : List Question) :
    (r.after history).Faithful ∧ (r.after history).list = (latestList? history).or r.list := by
  induction history generalizing r with
  | nil => exact ⟨h, rfl⟩
  | cons q history ih =>
    obtain ⟨-, hq, hlist⟩ := h.answer q
    obtain ⟨hafter, hlatest⟩ := ih hq
    -- the list of the first question counts only if no later one brings one
    refine ⟨hafter, hlatest.trans ?_⟩
    rw [hlist, latestList?, latestList?, List.filterMap_cons]
    cases q.list? with
    | none => rfl
    | some list =>
      rw [List.getLast?_cons]
      cases (history.filterMap Question.list?).getLast? <;> rfl

/-- What is remembered changes no answer. -/
theorem answers_congr {r' : Resolver} (h : r.Faithful) (h' : r'.Faithful) (hlist : r.list = r'.list)
    (questions : List Question) : r.answers questions = r'.answers questions := by
  induction questions generalizing r r' with
  | nil => rfl
  | cons q questions ih =>
    obtain ⟨hanswer, hnext, hnextList⟩ := h.answer q
    obtain ⟨hanswer', hnext', hnextList'⟩ := h'.answer q
    rw [answers, answers, hanswer, hanswer', hlist,
      ih hnext hnext' (by rw [hnextList, hnextList', hlist])]

end Faithful

/-- **The cache is transparent.**  After any history a site is the one that the list accepted last
gives to the host, and two hosts are compared by these sites; the lists that were rejected change no
answer that is given later. -/
theorem site_after (history : List Question) :
    (∀ host, ((initial.after history).site host).1 = ofHost (latestList? history) host) ∧
    (∀ a b, ((initial.after history).sameSite a b).1 =
      (ofHost (latestList? history) a == ofHost (latestList? history) b)) ∧
    ∀ later, (initial.after (history.filter fun q => !q.isRejected)).answers later =
      (initial.after history).answers later := by
  have hinitial : initial.Faithful := faithful_empty none
  obtain ⟨hfaithful, hlist⟩ := hinitial.after history
  obtain ⟨hfaithful', hlist'⟩ := hinitial.after (history.filter fun q => !q.isRejected)
  rw [show initial.list = none from rfl, Option.or_none] at hlist hlist'
  refine ⟨fun host => ?_, fun a b => ?_, hfaithful'.answers_congr hfaithful ?_⟩
  · rw [hfaithful.site_fst, hlist]
  · rw [hfaithful.sameSite_fst, hlist]
  · rw [hlist, hlist', latestList?_filter]

end Resolver

end Site

end ContentBlocking
