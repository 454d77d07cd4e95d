import Mathlib.Data.List.Induction
import Mathlib.Data.Multiset.Filter
import Mathlib.Data.Prod.Lex

/-
Timelines: lists of marks at which items start and stop.

Marks are listed in the order of a key, so a mark comes before another exactly
when its key is smaller.  Items that contend for something only one of them can
hold never meet when, of any two, one is stopped before the other starts; what
an item takes at its start and gives back at its stop is held by the items that
are live.
-/

set_option autoImplicit false

namespace TrainsValkey.Library

universe u v w

/-! ### Sorted lists -/

section Sorted

variable {α : Type u} {κ : Type v} {τ : Type w} [LinearOrder τ]

theorem pair_sublist_asymm {items : List α} (distinct : items.Nodup) {a b : α}
    (pair : [a, b].Sublist items) : ¬[b, a].Sublist items := by
  induction items with
  | nil => cases pair
  | cons first rest ih =>
      obtain ⟨fresh, tail⟩ := List.nodup_cons.mp distinct
      intro reversed
      rcases List.sublist_cons_iff.mp pair with within | ⟨_, same, within⟩
      · rcases List.sublist_cons_iff.mp reversed with within' | ⟨_, same', _⟩
        · exact ih tail within within'
        · obtain ⟨rfl, _⟩ := List.cons.inj same'
          exact fresh (within.subset (List.mem_cons_of_mem _ List.mem_cons_self))
      · obtain ⟨rfl, rfl⟩ := List.cons.inj same
        rcases List.sublist_cons_iff.mp reversed with within' | ⟨_, same', _⟩
        · exact fresh (within'.subset (List.mem_cons_of_mem _ List.mem_cons_self))
        · obtain ⟨rfl, _⟩ := List.cons.inj same'
          exact fresh (within.subset List.mem_cons_self)

theorem pairwise_sort_lex [LinearOrder κ] (time : α → τ) (rank : α → κ) {items : List α}
    (ranked : items.Pairwise (fun a b => rank a < rank b)) :
    (items.mergeSort (fun a b => decide (time a ≤ time b))).Pairwise
      (fun a b => toLex (time a, rank a) < toLex (time b, rank b)) := by
  have trans : ∀ a b c : α, decide (time a ≤ time b) = true → decide (time b ≤ time c) = true →
      decide (time a ≤ time c) = true := by
    intro a b c first second
    exact decide_eq_true (le_trans (of_decide_eq_true first) (of_decide_eq_true second))
  have total : ∀ a b : α, (decide (time a ≤ time b) || decide (time b ≤ time a)) = true := by
    intro a b
    simpa only [Bool.or_eq_true, decide_eq_true_eq] using le_total (time a) (time b)
  have sorted := List.pairwise_mergeSort trans total items
  have distinct : (items.mergeSort (fun a b => decide (time a ≤ time b))).Nodup := by
    apply (List.mergeSort_perm items _).nodup_iff.mpr
    apply ranked.imp
    intro a b less same
    exact absurd less (same ▸ lt_irrefl (rank a))
  rw [List.pairwise_iff_forall_sublist] at sorted ⊢
  intro a b pair
  have early : time a ≤ time b := of_decide_eq_true (sorted pair)
  rw [Prod.Lex.toLex_lt_toLex]
  rcases lt_or_eq_of_le early with less | same
  · exact .inl less
  · refine .inr ⟨same, ?_⟩
    by_contra notLess
    have different : a ≠ b := by
      rintro rfl
      exact pair_sublist_asymm distinct pair pair
    have member : a ∈ items := List.mem_mergeSort.mp (pair.subset List.mem_cons_self)
    have member' : b ∈ items :=
      List.mem_mergeSort.mp (pair.subset (List.mem_cons_of_mem _ List.mem_cons_self))
    obtain ⟨before, after, rfl⟩ := List.append_of_mem member
    -- `b` was listed first, and the sort keeps it there
    have first : b ∈ before := by
      rcases List.mem_append.mp member' with inside | rest
      · exact inside
      · rcases List.mem_cons.mp rest with rfl | rest
        · exact absurd rfl different
        · exact absurd
            ((List.pairwise_cons.mp (List.pairwise_append.mp ranked).2.1).1 b rest) notLess
    have listed : [b, a].Sublist (before ++ a :: after) :=
      List.cons_sublist_iff.mpr
        ⟨before, a :: after, rfl, first, List.singleton_sublist.mpr List.mem_cons_self⟩
    have kept := List.pair_sublist_mergeSort trans total (decide_eq_true same.ge) listed
    exact pair_sublist_asymm distinct pair kept

theorem filter_until_front (time : α → τ) (limit : τ) {items : List α}
    (sorted : items.Pairwise (fun a b => time a ≤ time b)) :
    items.filter (fun item => decide (time item ≤ limit)) <+: items := by
  induction items with
  | nil => exact List.prefix_refl _
  | cons first rest ih =>
      obtain ⟨least, tail⟩ := List.pairwise_cons.mp sorted
      by_cases within : time first ≤ limit
      · rw [List.filter_cons_of_pos (by simpa using within)]
        exact (List.prefix_cons_inj first).mpr (ih tail)
      · have excluded : (first :: rest).filter (fun item => decide (time item ≤ limit)) = [] := by
          apply List.filter_eq_nil_iff.mpr
          intro item member early
          apply within
          rcases List.mem_cons.mp member with rfl | later
          · exact of_decide_eq_true early
          · exact le_trans (least item later) (of_decide_eq_true early)
        rw [excluded]
        exact List.nil_prefix

end Sorted

/-! ### Marks -/

inductive Mark (ι : Type u) where
  | start (item : ι)
  | stop (item : ι)
deriving DecidableEq, Repr

section Live

variable {ι : Type u} [DecidableEq ι]

def Mark.apply (running : Multiset ι) : Mark ι → Multiset ι
  | .start item => item ::ₘ running
  | .stop item => running.erase item

/-- The items that have started and were not stopped since. -/
def live (marks : List (Mark ι)) : Multiset ι := marks.foldl Mark.apply 0

@[simp] theorem live_nil : live ([] : List (Mark ι)) = 0 := rfl

@[simp] theorem live_append_start (marks : List (Mark ι)) (item : ι) :
    live (marks ++ [.start item]) = item ::ₘ live marks := by
  rw [live, List.foldl_append]
  rfl

@[simp] theorem live_append_stop (marks : List (Mark ι)) (item : ι) :
    live (marks ++ [.stop item]) = (live marks).erase item := by
  rw [live, List.foldl_append]
  rfl

variable {β : Type v} (held : ι → Option β) {running : Multiset ι} {item : ι}

theorem filterMap_erase_some {value : β} (member : item ∈ running) (holds : held item = some value) :
    running.filterMap held = value ::ₘ (running.erase item).filterMap held := by
  have whole := Multiset.cons_erase member
  rw [← Multiset.filterMap_cons_some held item _ holds, whole]

theorem filterMap_erase_none (holds : held item = none) :
    (running.erase item).filterMap held = running.filterMap held := by
  by_cases member : item ∈ running
  · have whole := Multiset.cons_erase member
    rw [← Multiset.filterMap_cons_none item (running.erase item) holds, whole]
  · rw [Multiset.erase_of_notMem member]

end Live

/-! ### Timelines -/

/-- Marks in the order of their keys; an item is stopped after its start only. -/
structure Timeline (ι : Type u) (κ : Type v) [LinearOrder κ] where
  marks : List (Mark ι)
  key : Mark ι → κ
  sorted : marks.Pairwise (fun a b => key a < key b)
  opened : ∀ item, .stop item ∈ marks → .start item ∈ marks ∧ key (.start item) < key (.stop item)

namespace Timeline

variable {ι : Type u} {κ : Type v} [LinearOrder κ] (timeline : Timeline ι κ)

section Order

variable {timeline} {earlier later : List (Mark ι)} {mark other : Mark ι}

theorem key_lt_of_later (split : timeline.marks = earlier ++ mark :: later) (member : other ∈ later) :
    timeline.key mark < timeline.key other := by
  have sorted := timeline.sorted
  rw [split] at sorted
  exact (List.pairwise_cons.mp (List.pairwise_append.mp sorted).2.1).1 other member

theorem mem_earlier_iff (split : timeline.marks = earlier ++ mark :: later) :
    other ∈ earlier ↔ other ∈ timeline.marks ∧ timeline.key other < timeline.key mark := by
  constructor
  · intro member
    have sorted := timeline.sorted
    rw [split] at sorted ⊢
    exact ⟨List.mem_append_left _ member,
      sorted.rel_of_mem_append member List.mem_cons_self⟩
  · intro both
    obtain ⟨member, less⟩ := both
    rw [split] at member
    rcases List.mem_append.mp member with before | after
    · exact before
    · rcases List.mem_cons.mp after with rfl | after
      · exact absurd less (lt_irrefl _)
      · exact absurd less (lt_asymm (key_lt_of_later split after))

theorem not_mem_earlier (split : timeline.marks = earlier ++ mark :: later) : mark ∉ earlier := by
  intro member
  exact lt_irrefl _ ((mem_earlier_iff split).mp member).2

theorem key_injective {mark other : Mark ι} (member : mark ∈ timeline.marks)
    (member' : other ∈ timeline.marks) (same : timeline.key mark = timeline.key other) :
    mark = other := by
  obtain ⟨earlier, later, split⟩ := List.append_of_mem member
  rcases List.mem_append.mp (split ▸ member') with before | after
  · exact absurd ((mem_earlier_iff split).mp before).2 (same ▸ lt_irrefl _)
  · rcases List.mem_cons.mp after with rfl | after
    · rfl
    · exact absurd (key_lt_of_later split after) (same ▸ lt_irrefl _)

end Order

variable [DecidableEq ι]

/-- After a front of the marks the live items are those it starts and does not
stop, each once. -/
theorem live_spec {earlier : List (Mark ι)} (front : earlier <+: timeline.marks) :
    (live earlier).Nodup ∧
      ∀ item, item ∈ live earlier ↔ .start item ∈ earlier ∧ .stop item ∉ earlier := by
  induction earlier using List.reverseRecOn with
  | nil => simp
  | append_singleton earlier mark ih =>
      obtain ⟨later, whole⟩ := front
      have split : timeline.marks = earlier ++ mark :: later := by
        rw [← whole, List.append_assoc, List.singleton_append]
      obtain ⟨distinct, members⟩ := ih ⟨mark :: later, split.symm⟩
      have fresh := not_mem_earlier split
      have present : mark ∈ timeline.marks := split ▸ List.mem_append_right _ List.mem_cons_self
      cases mark with
      | start item =>
          have unstopped : .stop item ∉ earlier := by
            intro stopped
            obtain ⟨member, less⟩ := (mem_earlier_iff split).mp stopped
            exact lt_asymm less (timeline.opened item member).2
          rw [live_append_start]
          constructor
          · refine Multiset.nodup_cons.mpr ⟨?_, distinct⟩
            intro member
            exact fresh ((members item).mp member).1
          · intro other
            rw [Multiset.mem_cons, members other]
            by_cases same : other = item
            · subst other
              simp [unstopped]
            · simp [same]
      | stop item =>
          rw [live_append_stop]
          refine ⟨distinct.erase item, ?_⟩
          intro other
          rw [distinct.mem_erase_iff, members other]
          by_cases same : other = item
          · simp [same]
          · simp [same]

theorem mem_live_iff {earlier : List (Mark ι)} (front : earlier <+: timeline.marks) (item : ι) :
    item ∈ live earlier ↔ .start item ∈ earlier ∧ .stop item ∉ earlier :=
  (timeline.live_spec front).2 item

theorem live_of_stop {earlier later : List (Mark ι)} {item : ι}
    (split : timeline.marks = earlier ++ .stop item :: later) : item ∈ live earlier := by
  have present : Mark.stop item ∈ timeline.marks :=
    split ▸ List.mem_append_right _ List.mem_cons_self
  have opened := timeline.opened item present
  have front : earlier <+: timeline.marks := ⟨_, split.symm⟩
  exact (timeline.mem_live_iff front item).mpr
    ⟨(mem_earlier_iff split).mpr opened, not_mem_earlier split⟩

/-! ### Items that exclude each other -/

def EndsBefore (item other : ι) : Prop :=
  .stop item ∈ timeline.marks ∧ timeline.key (.stop item) < timeline.key (.start other)

def Exclusive (contends : ι → Prop) : Prop :=
  ∀ earlier item later, timeline.marks = earlier ++ .start item :: later → contends item →
    ∀ other ∈ live earlier, ¬contends other

variable {timeline} {contends : ι → Prop}

theorem Exclusive.endsBefore (exclusive : timeline.Exclusive contends) {item other : ι}
    (contender : contends item) (contender' : contends other)
    (started : .start item ∈ timeline.marks) (started' : .start other ∈ timeline.marks)
    (first : timeline.key (.start item) < timeline.key (.start other)) :
    timeline.EndsBefore item other := by
  obtain ⟨earlier, later, split⟩ := List.append_of_mem started'
  have front : earlier <+: timeline.marks := ⟨_, split.symm⟩
  have gone : item ∉ live earlier := by
    intro running
    exact exclusive earlier other later split contender' item running contender
  have opened : .start item ∈ earlier := (mem_earlier_iff split).mpr ⟨started, first⟩
  have stopped : .stop item ∈ earlier := by
    by_contra unstopped
    exact gone ((timeline.mem_live_iff front item).mpr ⟨opened, unstopped⟩)
  exact (mem_earlier_iff split).mp stopped

/-- Contenders exclude each other exactly when, of any two, one is stopped
before the other starts. -/
theorem exclusive_iff : timeline.Exclusive contends ↔
    ∀ item other, item ≠ other → contends item → contends other →
      .start item ∈ timeline.marks → .start other ∈ timeline.marks →
        timeline.EndsBefore item other ∨ timeline.EndsBefore other item := by
  constructor
  · intro exclusive item other different contender contender' started started'
    rcases lt_trichotomy (timeline.key (.start item)) (timeline.key (.start other))
      with first | same | second
    · exact .inl (exclusive.endsBefore contender contender' started started' first)
    · exact absurd (Mark.start.inj (key_injective started started' same)) different
    · exact .inr (exclusive.endsBefore contender' contender started' started second)
  · intro apart earlier item later split contender other running contender'
    have front : earlier <+: timeline.marks := ⟨_, split.symm⟩
    have started : Mark.start item ∈ timeline.marks :=
      split ▸ List.mem_append_right _ List.mem_cons_self
    obtain ⟨opened, unstopped⟩ := (timeline.mem_live_iff front other).mp running
    obtain ⟨started', first⟩ := (mem_earlier_iff split).mp opened
    have different : item ≠ other := by
      rintro rfl
      exact not_mem_earlier split opened
    rcases apart item other different contender contender' started started' with before | before
    · obtain ⟨stopped, less⟩ := before
      have opens := (timeline.opened item stopped).2
      exact lt_asymm (lt_trans opens less) first
    · exact unstopped ((mem_earlier_iff split).mpr before)

end Timeline

end TrainsValkey.Library
