import AsmLens.Text
import Mathlib.Data.List.Forall2
import Std.Data.TreeMap

/-!
# Tables of names

A table that is filled item by item, where a name that comes up again leads to the newer item, has a plain
account without a table that is overwritten: a name leads to the last item that has it. An item may have
several names; all of them are entered before any of the next item's, so which item a name leads to is
settled by the order of the items alone.

Results:
* `LastWith`, `LastWith.of_forall₂`: the last item with a property, and the same in a list beside it.
* `keys_increasing`: a table lists its names in ascending order.
* `getElem?_enterAll_eq_some_iff`: what a name leads to after items have been entered.
-/
namespace AsmLens

/-! ## The last item with a property -/

/-- The item has the property, and no item after it does. -/
def LastWith {α : Type} (p : α → Prop) (items : List α) (item : α) : Prop :=
  ∃ before after, items = before ++ item :: after ∧ p item ∧ ∀ other ∈ after, ¬ p other

section LastWith
variable {α β : Type} {p : α → Prop} {q : β → Prop} {a b : α} {items : List α}

theorem LastWith.holds (h : LastWith p items a) : p a := by
  obtain ⟨_, _, _, ha, _⟩ := h
  exact ha

theorem LastWith.mem (h : LastWith p items a) : a ∈ items := by
  obtain ⟨before, after, rfl, _⟩ := h
  exact List.mem_append_cons_self

theorem lastWith_cons_iff : LastWith p (b :: items) a ↔
    LastWith p items a ∨ (b = a ∧ p b ∧ ∀ other ∈ items, ¬ p other) := by
  constructor
  · intro ⟨before, after, hitems, ha, hafter⟩
    cases before with
    | nil =>
      cases hitems
      exact Or.inr ⟨rfl, ha, hafter⟩
    | cons first others =>
      cases hitems
      exact Or.inl ⟨others, after, rfl, ha, hafter⟩
  · rintro (⟨before, after, rfl, ha, hafter⟩ | ⟨rfl, hb, hnone⟩)
    · exact ⟨b :: before, after, rfl, ha, hafter⟩
    · exact ⟨[], items, rfl, hb, hnone⟩

theorem exists_lastWith_of_exists (h : ∃ a ∈ items, p a) : ∃ a, LastWith p items a := by
  induction items with
  | nil =>
    obtain ⟨a, ha, _⟩ := h
    cases ha
  | cons b rest ih =>
    by_cases hrest : ∃ a ∈ rest, p a
    · obtain ⟨a, ha⟩ := ih hrest
      exact ⟨a, lastWith_cons_iff.mpr (Or.inl ha)⟩
    · have hnone : ∀ other ∈ rest, ¬ p other := by
        intro other hmem hother
        exact hrest ⟨other, hmem, hother⟩
      obtain ⟨a, ha, hp⟩ := h
      rcases List.mem_cons.mp ha with rfl | ha
      · exact ⟨a, lastWith_cons_iff.mpr (Or.inr ⟨rfl, hp, hnone⟩)⟩
      · exact absurd hp (hnone a ha)

theorem exists_mem_of_forall₂ {α β : Type} {R : α → β → Prop} {as : List α} {bs : List β}
    (h : List.Forall₂ R as bs) {a : α} (ha : a ∈ as) : ∃ b ∈ bs, R a b := by
  induction h with
  | nil => cases ha
  | cons hhead _ ih =>
    rcases List.mem_cons.mp ha with rfl | ha
    · exact ⟨_, List.mem_cons_self, hhead⟩
    · obtain ⟨b, hb, hR⟩ := ih ha
      exact ⟨b, List.mem_cons_of_mem _ hb, hR⟩

/-- Of two lists that go side by side, the last item with a property stands beside the last one with the
corresponding property. -/
theorem LastWith.of_forall₂ {R : α → β → Prop} {bs : List β} {b : β} (hR : List.Forall₂ R items bs)
    (hpq : ∀ a b, R a b → (p a ↔ q b)) (h : LastWith q bs b) : ∃ a, LastWith p items a ∧ R a b := by
  induction hR with
  | nil =>
    have := h.mem
    cases this
  | cons hhead hrest ih =>
    rcases lastWith_cons_iff.mp h with h | ⟨rfl, hq, hnone⟩
    · obtain ⟨a, ha, hab⟩ := ih h
      exact ⟨a, lastWith_cons_iff.mpr (Or.inl ha), hab⟩
    · refine ⟨_, lastWith_cons_iff.mpr (Or.inr ⟨rfl, (hpq _ _ hhead).mpr hq, ?_⟩), hhead⟩
      intro other hmem hother
      obtain ⟨b', hb', hR'⟩ := exists_mem_of_forall₂ hrest hmem
      exact hnone b' hb' ((hpq _ _ hR').mp hother)

end LastWith

/-! ## Tables of names -/

namespace NameTable

/-- Texts are ordered by their first difference, as their characters are. -/
theorem compare_eq_lt_iff {a b : Text} : compare a b = .lt ↔ a < b := by
  induction a generalizing b with
  | nil => cases b <;> simp
  | cons c rest ih =>
    cases b with
    | nil => simp
    | cons d others =>
      have hc : compare c d = .lt ↔ c < d := compareOfLessAndEq_eq_lt
      rw [List.compare_eq_compareLex] at ih
      rw [List.compare_eq_compareLex, List.compareLex_cons_cons, Ordering.then_eq_lt,
        List.cons_lt_cons_iff, ih, hc, Std.LawfulEqCmp.compare_eq_iff_eq]

/-- The names of a table are listed in ascending order. -/
theorem keys_increasing {Value : Type} (known : Std.TreeMap Text Value) :
    (known.toList.map Prod.fst).Pairwise (· < ·) := by
  rw [List.pairwise_map]
  exact Std.TreeMap.ordered_keys_toList.imp fun h => compare_eq_lt_iff.mp h

section Entering
variable {Item Value : Type} {names : Item → List Text} {value : Item → Value} {name : Text}
  {known : Std.TreeMap Text Value} {items : List Item} {v : Value}

/-- The table after entering the value of every item under all its names, item by item. -/
def enterAll (names : Item → List Text) (value : Item → Value) (known : Std.TreeMap Text Value)
    (items : List Item) : Std.TreeMap Text Value :=
  items.foldl (fun known item =>
    (names item).foldl (fun known name => known.insert name (value item)) known) known

theorem getElem?_foldl_insert (known : Std.TreeMap Text Value) (ns : List Text) (v : Value) :
    (ns.foldl (fun known name => known.insert name v) known)[name]? =
      if name ∈ ns then some v else known[name]? := by
  induction ns generalizing known with
  | nil => rfl
  | cons n rest ih =>
    rw [List.foldl_cons, ih, Std.TreeMap.getElem?_insert]
    by_cases hrest : name ∈ rest
    · rw [if_pos hrest, if_pos (List.mem_cons_of_mem n hrest)]
    · rw [if_neg hrest]
      by_cases hn : n = name
      · rw [if_pos (Std.LawfulEqCmp.compare_eq_iff_eq.mpr hn), if_pos (hn ▸ List.mem_cons_self)]
      · have hnot : name ∉ n :: rest := by
          rw [List.mem_cons, not_or]
          exact ⟨Ne.symm hn, hrest⟩
        rw [if_neg (hn ∘ Std.LawfulEqCmp.compare_eq_iff_eq.mp), if_neg hnot]

/-- A name leads to the last item that has it, and where no item has it, to where it led before. -/
theorem getElem?_enterAll_eq_some_iff :
    (enterAll names value known items)[name]? = some v ↔
      (∃ item, LastWith (name ∈ names ·) items item ∧ value item = v) ∨
        ((∀ item ∈ items, name ∉ names item) ∧ known[name]? = some v) := by
  induction items generalizing known with
  | nil =>
    constructor
    · intro h
      exact Or.inr ⟨by simp, h⟩
    · rintro (⟨item, hlast, _⟩ | ⟨_, h⟩)
      · cases hlast.mem
      · exact h
  | cons item rest ih =>
    rw [enterAll, List.foldl_cons, ← enterAll, ih, getElem?_foldl_insert]
    constructor
    · rintro (⟨a, hlast, hv⟩ | ⟨hnone, hv⟩)
      · exact Or.inl ⟨a, lastWith_cons_iff.mpr (Or.inl hlast), hv⟩
      · split at hv
        case isTrue hmem =>
          have hlast : LastWith (name ∈ names ·) (item :: rest) item :=
            lastWith_cons_iff.mpr (Or.inr ⟨rfl, hmem, hnone⟩)
          exact Or.inl ⟨item, hlast, Option.some.inj hv⟩
        case isFalse hmem => exact Or.inr ⟨List.forall_mem_cons.mpr ⟨hmem, hnone⟩, hv⟩
    · rintro (⟨a, hlast, hv⟩ | ⟨hnone, hv⟩)
      · rcases lastWith_cons_iff.mp hlast with hlast | ⟨rfl, hmem, hnone⟩
        · exact Or.inl ⟨a, hlast, hv⟩
        · rw [if_pos hmem, hv]
          exact Or.inr ⟨hnone, rfl⟩
      · obtain ⟨hmem, hnone⟩ := List.forall_mem_cons.mp hnone
        rw [if_neg hmem]
        exact Or.inr ⟨hnone, hv⟩

theorem getElem?_enterAll_empty :
    (enterAll names value ∅ items)[name]? = some v ↔
      ∃ item, LastWith (name ∈ names ·) items item ∧ value item = v := by
  rw [getElem?_enterAll_eq_some_iff, Std.TreeMap.getElem?_emptyc]
  simp

/-- What a table leads to is the value of what the table of the items themselves leads to. -/
theorem getElem?_enterAll_value : (enterAll names value ∅ items)[name]? =
    ((enterAll names id ∅ items)[name]?).map value := by
  apply Option.ext
  intro v
  rw [getElem?_enterAll_empty, Option.map_eq_some_iff]
  simp only [getElem?_enterAll_empty, id_eq]
  constructor
  · intro ⟨item, hlast, hv⟩
    exact ⟨item, ⟨item, hlast, rfl⟩, hv⟩
  · intro ⟨item, ⟨_, hlast, hitem⟩, hv⟩
    exact ⟨item, hitem ▸ hlast, hv⟩

/-! Where every item was made from something, what is known of its names can be said of that. -/

variable {Origin : Type} {R : Origin → Item → Prop} {p : Origin → Prop} {origins : List Origin}
  {item : Item}

/-- A name leads to the item that was made from the last origin with the name. -/
theorem exists_lastWith_of_enterAll (hR : List.Forall₂ R origins items)
    (hp : ∀ a b, R a b → (p a ↔ name ∈ names b))
    (h : (enterAll names id ∅ items)[name]? = some item) :
    ∃ a, LastWith p origins a ∧ R a item := by
  obtain ⟨b, hlast, rfl⟩ := getElem?_enterAll_empty.mp h
  exact hlast.of_forall₂ hR hp

/-- A name leads somewhere if some origin has it. -/
theorem isSome_enterAll_iff (hR : List.Forall₂ R origins items)
    (hp : ∀ a b, R a b → (p a ↔ name ∈ names b)) :
    ((enterAll names id ∅ items)[name]?).isSome = true ↔ ∃ a ∈ origins, p a := by
  rw [Option.isSome_iff_exists]
  constructor
  · intro ⟨b, h⟩
    obtain ⟨a, hlast, _⟩ := exists_lastWith_of_enterAll hR hp h
    exact ⟨a, hlast.mem, hlast.holds⟩
  · intro ⟨a, ha, hpa⟩
    obtain ⟨b, hb, hab⟩ := exists_mem_of_forall₂ hR ha
    have hnamed : ∃ b ∈ items, name ∈ names b := ⟨b, hb, (hp a b hab).mp hpa⟩
    obtain ⟨c, hlast⟩ := exists_lastWith_of_exists hnamed
    exact ⟨c, getElem?_enterAll_empty.mpr ⟨c, hlast, rfl⟩⟩

end Entering

end NameTable
end AsmLens
