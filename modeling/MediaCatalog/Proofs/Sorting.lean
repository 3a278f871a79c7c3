import Mathlib.Data.List.Perm.Basic

set_option autoImplicit false

namespace MediaCatalog

variable {α : Type} {cmp : α → α → Ordering} {items others : List α}

theorem isLE_total [Std.OrientedCmp cmp] (a b : α) : ((cmp a b).isLE || (cmp b a).isLE) = true := by
  have swapped : cmp b a = (cmp a b).swap := Std.OrientedCmp.eq_swap
  rw [swapped]
  cases cmp a b <;> rfl

theorem pairwise_mergeSort [Std.TransCmp cmp] (items : List α) :
    (items.mergeSort fun a b => (cmp a b).isLE).Pairwise fun a b => (cmp a b).isLE = true :=
  List.pairwise_mergeSort (fun _ _ _ => Std.TransCmp.isLE_trans) isLE_total items

theorem perm_of_mergeSort_eq {le : α → α → Bool}
    (same : items.mergeSort le = others.mergeSort le) : items.Perm others := by
  have sorted := List.mergeSort_perm items le
  rw [same] at sorted
  exact sorted.symm.trans (List.mergeSort_perm others le)

theorem mergeSort_eq_of_perm [Std.TransCmp cmp] [Std.LawfulEqCmp cmp]
    (permuted : items.Perm others) :
    (items.mergeSort fun a b => (cmp a b).isLE) = others.mergeSort fun a b => (cmp a b).isLE := by
  have sorted := ((List.mergeSort_perm items fun a b => (cmp a b).isLE).trans permuted).trans
    (List.mergeSort_perm others fun a b => (cmp a b).isLE).symm
  refine List.Perm.eq_of_pairwise ?_ (pairwise_mergeSort _) (pairwise_mergeSort _) sorted
  intro a b _ _ below above
  exact Std.LawfulEqCmp.eq_of_compare (Std.OrientedCmp.isLE_antisymm below above)

def tiedWith (cmp : α → α → Ordering) (item : α) (items : List α) : List α :=
  items.filter fun other => cmp item other == .eq

theorem tiedWith_mergeSort [Std.TransCmp cmp] (item : α) (items : List α) :
    tiedWith cmp item (items.mergeSort fun a b => (cmp a b).isLE) = tiedWith cmp item items := by
  have ties {other : α} (member : other ∈ tiedWith cmp item items) : cmp item other = .eq :=
    beq_iff_eq.1 (List.mem_filter.1 member).2
  have level : (tiedWith cmp item items).Pairwise fun a b => (cmp a b).isLE = true := by
    refine List.pairwise_iff_forall_sublist.2 fun {a b} pair => ?_
    have first := ties (pair.subset List.mem_cons_self)
    have second := ties (pair.subset (List.mem_cons_of_mem _ List.mem_cons_self))
    rw [← Std.TransCmp.congr_left first, second]
    rfl
  -- What is level already comes out of sorting as it went in.
  have kept := List.sublist_mergeSort (fun _ _ _ => Std.TransCmp.isLE_trans) isLE_total level
    List.filter_sublist
  have within := kept.filter fun other => cmp item other == .eq
  have same := (List.mergeSort_perm items fun a b => (cmp a b).isLE).filter
    fun other => cmp item other == .eq
  rw [tiedWith, List.filter_filter] at within
  simp only [Bool.and_self] at within
  exact (within.eq_of_length same.length_eq.symm).symm

theorem mem_tiedWith [Std.ReflCmp cmp] {item : α} {items : List α} :
    item ∈ tiedWith cmp item items ↔ item ∈ items := by
  simp [tiedWith, Std.ReflCmp.compare_self]

theorem isLE_head [Std.ReflCmp cmp] {first item : α}
    (sorted : (first :: items).Pairwise fun a b => (cmp a b).isLE = true)
    (listed : item ∈ first :: items) : (cmp first item).isLE = true := by
  rcases List.mem_cons.1 listed with rfl | later
  next => simp [Std.ReflCmp.compare_self]
  next => exact List.rel_of_pairwise_cons sorted later

theorem eq_of_tiedWith [Std.TransCmp cmp]
    (sorted : items.Pairwise fun a b => (cmp a b).isLE = true)
    (sorted' : others.Pairwise fun a b => (cmp a b).isLE = true)
    (same : ∀ item, tiedWith cmp item items = tiedWith cmp item others) : items = others := by
  have itself {item : α} {items : List α} : item ∈ tiedWith cmp item items ↔ item ∈ items :=
    mem_tiedWith
  induction items generalizing others with
  | nil =>
    cases others with
    | nil => rfl
    | cons second behind =>
      have listed : second ∈ tiedWith cmp second [] := by
        rw [same, itself]
        exact List.mem_cons_self
      exact absurd listed List.not_mem_nil
  | cons first rest ih =>
    have listed : first ∈ others := by
      rw [← itself, ← same, itself]
      exact List.mem_cons_self
    cases others with
    | nil => exact absurd listed List.not_mem_nil
    | cons second behind =>
      have listed' : second ∈ first :: rest := by
        rw [← itself, same, itself]
        exact List.mem_cons_self
      -- The heads are tied, and so they are the first of the same tied items.
      have tied : cmp first second = .eq :=
        Std.OrientedCmp.isLE_antisymm (isLE_head sorted listed') (isLE_head sorted' listed)
      have heads := same first
      simp only [tiedWith, List.filter_cons, Std.ReflCmp.compare_self, tied, beq_self_eq_true,
        if_true, List.cons.injEq] at heads
      obtain ⟨rfl, -⟩ := heads
      congr 1
      refine ih sorted.of_cons sorted'.of_cons fun item => ?_
      have whole := same item
      simp only [tiedWith, List.filter_cons] at whole
      split at whole
      next => exact (List.cons.inj whole).2
      next => exact whole

theorem tiedWith_filter (item : α) (keep : α → Bool) (items : List α) :
    tiedWith cmp item (items.filter keep) = (tiedWith cmp item items).filter keep := by
  simp only [tiedWith, List.filter_filter, Bool.and_comm]

theorem filter_mergeSort [Std.TransCmp cmp] (keep : α → Bool) (items : List α) :
    (items.mergeSort fun a b => (cmp a b).isLE).filter keep =
      (items.filter keep).mergeSort fun a b => (cmp a b).isLE := by
  refine eq_of_tiedWith ((pairwise_mergeSort items).filter keep) (pairwise_mergeSort _) fun item => ?_
  rw [tiedWith_filter, tiedWith_mergeSort, tiedWith_mergeSort, tiedWith_filter]

theorem mergeSort_eq_iff_tiedWith [Std.TransCmp cmp] :
    (items.mergeSort fun a b => (cmp a b).isLE) = (others.mergeSort fun a b => (cmp a b).isLE) ↔
      ∀ item, tiedWith cmp item items = tiedWith cmp item others := by
  constructor
  next =>
    intro same item
    rw [← tiedWith_mergeSort item items, same, tiedWith_mergeSort]
  next =>
    intro same
    refine eq_of_tiedWith (pairwise_mergeSort items) (pairwise_mergeSort others) fun item => ?_
    rw [tiedWith_mergeSort, tiedWith_mergeSort, same]

theorem nodup_eraseDups [BEq α] [LawfulBEq α] (items : List α) :
    items.eraseDups.Nodup := by
  cases items with
  | nil => exact List.nodup_nil
  | cons first rest =>
    rw [List.eraseDups_cons, List.nodup_cons]
    exact ⟨by simp [List.mem_eraseDups], nodup_eraseDups _⟩
termination_by items.length
decreasing_by exact Nat.lt_succ_of_le (List.length_filter_le _ rest)

end MediaCatalog
