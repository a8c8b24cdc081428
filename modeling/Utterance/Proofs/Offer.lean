import Mathlib.Data.List.Nodup
import Utterance.Search.Candidate

/-!
# The best candidate for each stop

`Extent.AtLeast` is the order in which candidates compete: more tokens consumed, then less noise
inside. It is total, and an extent outranks another when the other is not at least as good.
Offering items one after another gathers the best one for each stop (`Gathered`): what is found
comes from the items, no two found items stop at the same place, and every item has a found one that
stops where it does and is at least as good.
-/
namespace Utterance

namespace Extent

/-- Whether one extent is at least as good as another: it consumes no less, and where it consumes as
much it has no more noise inside. -/
def AtLeast (left right : Extent) : Prop :=
  right.consumed ≤ left.consumed ∧ (right.consumed = left.consumed → left.noise ≤ right.noise)

/-- An extent is at least as good as one that does not outrank it. -/
theorem atLeast_iff_not_outranks (left right : Extent) :
    left.AtLeast right ↔ right.outranks left = false := by
  simp only [AtLeast, outranks, Bool.or_eq_false_iff, Bool.and_eq_false_iff,
    decide_eq_false_iff_not, beq_eq_false_iff_ne]
  omega

/-- An extent is at least as good as itself. -/
theorem AtLeast.refl (extent : Extent) : extent.AtLeast extent :=
  ⟨Nat.le_refl _, fun _ => Nat.le_refl _⟩

/-- Being at least as good carries over. -/
theorem AtLeast.trans {first second third : Extent} (left : first.AtLeast second)
    (right : second.AtLeast third) : first.AtLeast third := by
  obtain ⟨more, quiet⟩ := left
  obtain ⟨further, quieter⟩ := right
  refine ⟨Nat.le_trans further more, fun equal => ?_⟩
  have same : second.consumed = first.consumed := by omega
  exact Nat.le_trans (quiet same) (quieter (by omega))

/-- An extent that outranks another is at least as good. -/
theorem AtLeast.of_outranks {left right : Extent} (outranks : left.outranks right = true) :
    left.AtLeast right := by
  simp only [Extent.outranks, Bool.or_eq_true, Bool.and_eq_true, decide_eq_true_eq,
    beq_iff_eq] at outranks
  constructor
  · omega
  · intro equal
    omega

end Extent

section

variable {α : Type} {extent : α → Extent}

/-- Whether found items are the best of some items, one for each stop. -/
structure Gathered (extent : α → Extent) (items found : List α) : Prop where
  /-- No two found items stop at the same place. -/
  distinct : (found.map fun item => (extent item).stop).Nodup
  /-- Found items are among the items. -/
  origin : ∀ item ∈ found, item ∈ items
  /-- Each item has a found one with its stop that is at least as good. -/
  best : ∀ item ∈ items, ∃ better ∈ found,
    (extent better).stop = (extent item).stop ∧ (extent better).AtLeast (extent item)

/-- What holds an item after an offer was offered or held before. -/
theorem mem_of_mem_offer {item other : α} {held : List α}
    (member : other ∈ offer extent item held) :
    other = item ∨ other ∈ held := by
  induction held with
  | nil => exact Or.inl (List.mem_singleton.1 member)
  | cons first rest hypothesis =>
    unfold offer at member
    split at member
    · rcases List.mem_cons.1 member with rfl | member
      · split
        · exact Or.inl rfl
        · exact Or.inr List.mem_cons_self
      · exact Or.inr (List.mem_cons_of_mem _ member)
    · rcases List.mem_cons.1 member with rfl | member
      · exact Or.inr List.mem_cons_self
      · rcases hypothesis member with same | member
        · exact Or.inl same
        · exact Or.inr (List.mem_cons_of_mem _ member)

/-- What is held after items have been offered was held before or is one of them. -/
theorem mem_of_mem_offerAll {held items : List α} {other : α}
    (member : other ∈ offerAll extent held items) : other ∈ held ∨ other ∈ items := by
  induction items generalizing held with
  | nil => exact Or.inl member
  | cons item rest hypothesis =>
    rcases hypothesis member with kept | later
    · rcases mem_of_mem_offer kept with rfl | before
      · exact Or.inr List.mem_cons_self
      · exact Or.inl before
    · exact Or.inr (List.mem_cons_of_mem _ later)

/-- What holds of each item that is offered holds of each that is held then. -/
theorem forall_mem_offerAll {good : α → Prop} {items : List α} (each : ∀ item ∈ items, good item) :
    ∀ item ∈ offerAll extent [] items, good item := by
  intro item member
  rcases mem_of_mem_offerAll member with none | listed
  · exact absurd none (by simp)
  · exact each item listed

/-- After an offer, the offered item and every item held before has one that stops where it does and
is at least as good. -/
theorem best_of_offer {other : α} {held : List α} (item : α)
    (offered : other = item ∨ other ∈ held) :
    ∃ better ∈ offer extent item held,
      (extent better).stop = (extent other).stop ∧ (extent better).AtLeast (extent other) := by
  induction held with
  | nil =>
    have same : other = item := by simpa using offered
    exact ⟨item, List.mem_singleton.2 rfl, by rw [same], by rw [same]; exact .refl _⟩
  | cons first rest hypothesis =>
    unfold offer
    by_cases level : (extent first).stop = (extent item).stop
    · rw [if_pos level]
      by_cases outranks : (extent item).outranks (extent first) = true
      · rw [if_pos outranks]
        rcases offered with rfl | member
        · exact ⟨other, List.mem_cons_self, rfl, .refl _⟩
        · rcases List.mem_cons.1 member with rfl | member
          · exact ⟨item, List.mem_cons_self, level.symm, .of_outranks outranks⟩
          · exact ⟨other, List.mem_cons_of_mem _ member, rfl, .refl _⟩
      · rw [if_neg outranks]
        rcases offered with rfl | member
        · have better : (extent first).AtLeast (extent other) :=
            (Extent.atLeast_iff_not_outranks _ _).2 (by simpa using outranks)
          exact ⟨first, List.mem_cons_self, level, better⟩
        · exact ⟨other, member, rfl, .refl _⟩
    · rw [if_neg level]
      by_cases head : other = first
      · exact ⟨first, List.mem_cons_self, by rw [head], by rw [head]; exact .refl _⟩
      · have later : other = item ∨ other ∈ rest := by simpa [head] using offered
        obtain ⟨better, member, stop, atLeast⟩ := hypothesis later
        exact ⟨better, List.mem_cons_of_mem _ member, stop, atLeast⟩

/-- An offer keeps the stops apart. -/
theorem distinct_offer {item : α} {held : List α}
    (distinct : (held.map fun item => (extent item).stop).Nodup) :
    ((offer extent item held).map fun item => (extent item).stop).Nodup := by
  induction held with
  | nil => simp [offer]
  | cons first rest hypothesis =>
    rw [List.map_cons, List.nodup_cons] at distinct
    unfold offer
    by_cases level : (extent first).stop = (extent item).stop
    · rw [if_pos level, List.map_cons, List.nodup_cons]
      refine ⟨?_, distinct.2⟩
      split
      · rw [← level]
        exact distinct.1
      · exact distinct.1
    · rw [if_neg level, List.map_cons, List.nodup_cons]
      refine ⟨?_, hypothesis distinct.2⟩
      intro member
      obtain ⟨other, inside, stop⟩ := List.mem_map.1 member
      rcases mem_of_mem_offer inside with rfl | held
      · exact level stop.symm
      · exact distinct.1 (List.mem_map.2 ⟨other, held, stop⟩)

/-- An offer changes nothing if an item is held that stops at the same place and is at least as
good. -/
theorem offer_eq_self {item better : α} {held : List α}
    (distinct : (held.map fun item => (extent item).stop).Nodup) (member : better ∈ held)
    (level : (extent better).stop = (extent item).stop)
    (atLeast : (extent better).AtLeast (extent item)) : offer extent item held = held := by
  induction held with
  | nil => exact absurd member (by simp)
  | cons first rest hypothesis =>
    rw [List.map_cons, List.nodup_cons] at distinct
    rw [offer]
    rcases List.mem_cons.1 member with rfl | later
    · have beaten : (extent item).outranks (extent better) = false :=
        (Extent.atLeast_iff_not_outranks _ _).1 atLeast
      rw [if_pos level, beaten]
      rfl
    · have apart : (extent first).stop ≠ (extent item).stop := by
        intro same
        exact distinct.1 (List.mem_map.2 ⟨better, later, level.trans same.symm⟩)
      rw [if_neg apart, hypothesis distinct.2 later]

/-- Offers change nothing if for each an item is held that stops at the same place and is at least
as good. -/
theorem offerAll_eq_self {items held : List α}
    (distinct : (held.map fun item => (extent item).stop).Nodup)
    (best : ∀ item ∈ items, ∃ better ∈ held,
      (extent better).stop = (extent item).stop ∧ (extent better).AtLeast (extent item)) :
    offerAll extent held items = held := by
  induction items with
  | nil => rfl
  | cons item rest hypothesis =>
    obtain ⟨better, member, level, atLeast⟩ := best item List.mem_cons_self
    have first : offer extent item held = held := offer_eq_self distinct member level atLeast
    have others := hypothesis fun other listed => best other (List.mem_cons_of_mem _ listed)
    rw [offerAll, List.foldl_cons, first]
    exact others

/-- An item that stops where no held one does is held at the end. -/
theorem offer_eq_append {item : α} {held : List α}
    (apart : ∀ other ∈ held, (extent other).stop ≠ (extent item).stop) :
    offer extent item held = held ++ [item] := by
  induction held with
  | nil => rfl
  | cons first rest hypothesis =>
    have others := hypothesis fun other member => apart other (List.mem_cons_of_mem _ member)
    rw [offer, if_neg (apart first List.mem_cons_self), others, List.cons_append]

/-- Items that stop at different places, where no held one does, are held in their order. -/
theorem offerAll_eq_append {held items : List α}
    (distinct : ((held ++ items).map fun item => (extent item).stop).Nodup) :
    offerAll extent held items = held ++ items := by
  induction items generalizing held with
  | nil => exact (List.append_nil held).symm
  | cons item rest hypothesis =>
    have apart : ∀ other ∈ held, (extent other).stop ≠ (extent item).stop := by
      rw [List.map_append, List.nodup_append] at distinct
      intro other member
      exact distinct.2.2 _ (List.mem_map_of_mem member) _ (List.mem_map_of_mem List.mem_cons_self)
    have others : offerAll extent (held ++ [item]) rest = held ++ [item] ++ rest := by
      refine hypothesis ?_
      rwa [List.append_assoc, List.singleton_append]
    rw [offerAll, List.foldl_cons, offer_eq_append apart, ← offerAll, others, List.append_assoc,
      List.singleton_append]

/-- Offering an item and then keeping those that stop at some places is the same as keeping these
first. -/
theorem filter_offer (keep : Nat → Bool) (item : α) (held : List α) :
    (offer extent item held).filter (fun other => keep (extent other).stop) =
      if keep (extent item).stop then
        offer extent item (held.filter fun other => keep (extent other).stop)
      else held.filter fun other => keep (extent other).stop := by
  induction held with
  | nil => simp [offer, List.filter_cons]
  | cons first rest hypothesis =>
    rw [offer]
    by_cases level : (extent first).stop = (extent item).stop
    · rw [if_pos level]
      by_cases kept : keep (extent item).stop = true
      · have winner : keep (extent (if (extent item).outranks (extent first) then item
            else first)).stop = true := by
          split
          · exact kept
          · rwa [level]
        have present : keep (extent first).stop = true := by rwa [level]
        rw [List.filter_cons, List.filter_cons, if_pos winner, if_pos present, if_pos kept, offer,
          if_pos level]
      · have loser : ¬ keep (extent (if (extent item).outranks (extent first) then item
            else first)).stop = true := by
          split
          · exact kept
          · rwa [level]
        have absent : ¬ keep (extent first).stop = true := by rwa [level]
        rw [List.filter_cons, List.filter_cons, if_neg loser, if_neg absent, if_neg kept]
    · rw [if_neg level, List.filter_cons, List.filter_cons, hypothesis]
      by_cases kept : keep (extent item).stop = true
      · simp only [kept, if_true, offer, if_neg level, apply_ite (offer extent item)]
      · simp only [kept, if_false, Bool.false_eq_true]

/-- Offering items and then keeping those that stop at some places is the same as keeping these
first. -/
theorem filter_offerAll (keep : Nat → Bool) (held items : List α) :
    (offerAll extent held items).filter (fun other => keep (extent other).stop) =
      offerAll extent (held.filter fun other => keep (extent other).stop)
        (items.filter fun other => keep (extent other).stop) := by
  induction items generalizing held with
  | nil => rfl
  | cons item rest hypothesis =>
    have first := hypothesis (offer extent item held)
    rw [filter_offer] at first
    rw [offerAll, List.foldl_cons, ← offerAll, first]
    by_cases kept : keep (extent item).stop = true
    · rw [if_pos kept, List.filter_cons, if_pos kept]
      rfl
    · rw [if_neg kept, List.filter_cons, if_neg kept]

section

variable {β : Type} {image : β → Extent} {turn : α → β}

/-- Whether a change of items keeps whether they compete, and which of them is better then. -/
structure Preserves (extent : α → Extent) (image : β → Extent) (turn : α → β) (item held : α) :
    Prop where
  /-- Items stop at the same place when they did. -/
  level : (image (turn held)).stop = (image (turn item)).stop ↔
    (extent held).stop = (extent item).stop
  /-- An item that stops at the same place as another is better when it was. -/
  ranked : (extent held).stop = (extent item).stop →
    (image (turn item)).outranks (image (turn held)) = (extent item).outranks (extent held)

/-- Offering an item and changing what is held is the same in either order. -/
theorem offer_turn {item : α} {held : List α}
    (preserves : ∀ other ∈ held, Preserves extent image turn item other) :
    offer image (turn item) (held.map turn) = (offer extent item held).map turn := by
  induction held with
  | nil => rfl
  | cons first rest hypothesis =>
    have head := preserves first List.mem_cons_self
    have tail := hypothesis fun other member => preserves other (List.mem_cons_of_mem _ member)
    rw [List.map_cons, offer, offer, tail]
    by_cases same : (extent first).stop = (extent item).stop
    · rw [if_pos (head.level.2 same), if_pos same, head.ranked same, List.map_cons,
        apply_ite turn]
    · rw [if_neg (fun level => same (head.level.1 level)), if_neg same, List.map_cons]

/-- Offering items and changing them is the same in either order. -/
theorem offerAll_turn (good : α → Prop)
    (preserves : ∀ item other, good item → good other → Preserves extent image turn item other)
    {held items : List α} (holds : ∀ item ∈ held, good item)
    (offered : ∀ item ∈ items, good item) :
    offerAll image (held.map turn) (items.map turn) = (offerAll extent held items).map turn := by
  induction items generalizing held with
  | nil => rfl
  | cons item rest hypothesis =>
    have first := offered item List.mem_cons_self
    have step : offerAll image ((offer extent item held).map turn) (rest.map turn) =
        (offerAll extent (offer extent item held) rest).map turn := by
      refine hypothesis ?_ fun other member => offered other (List.mem_cons_of_mem _ member)
      intro other member
      rcases mem_of_mem_offer member with rfl | kept
      · exact first
      · exact holds other kept
    rw [← offer_turn fun other member => preserves item other first (holds other member)] at step
    exact step

end

namespace Gathered

variable {items found : List α}

/-- Nothing is gathered from nothing. -/
theorem nil : Gathered extent [] [] := ⟨by simp, by simp, by simp⟩

/-- One more item is offered. -/
theorem offer (gathered : Gathered extent items found) (item : α) :
    Gathered extent (items ++ [item]) (Utterance.offer extent item found) := by
  refine ⟨distinct_offer gathered.distinct, ?_, ?_⟩
  · intro other member
    rcases mem_of_mem_offer member with rfl | held
    · simp
    · exact List.mem_append_left _ (gathered.origin other held)
  · intro other member
    rcases List.mem_append.1 member with early | last
    · obtain ⟨held, inside, stop, atLeast⟩ := gathered.best other early
      obtain ⟨better, kept, sameStop, further⟩ := best_of_offer item (Or.inr inside)
      exact ⟨better, kept, sameStop.trans stop, further.trans atLeast⟩
    · rw [List.mem_singleton.1 last]
      exact best_of_offer item (Or.inl rfl)

/-- More items are offered one after another. -/
theorem offerAll (gathered : Gathered extent items found) (more : List α) :
    Gathered extent (items ++ more) (Utterance.offerAll extent found more) := by
  induction more generalizing items found with
  | nil => simpa [Utterance.offerAll] using gathered
  | cons item rest hypothesis =>
    have step := hypothesis (gathered.offer item)
    rwa [List.append_assoc, List.singleton_append] at step

end Gathered

end

/-- Sources that give nothing may be left out. -/
theorem flatMap_filter_of_nil {α β : Type} {keep : α → Bool} {items : α → List β}
    (sources : List α) (nothing : ∀ source ∈ sources, keep source = false → items source = []) :
    (sources.filter keep).flatMap items = sources.flatMap items := by
  induction sources with
  | nil => rfl
  | cons source rest hypothesis =>
    have others := hypothesis fun other member => nothing other (List.mem_cons_of_mem _ member)
    rw [List.filter_cons, List.flatMap_cons]
    cases kept : keep source with
    | true => rw [if_pos rfl, List.flatMap_cons, others]
    | false =>
      rw [if_neg (by simp), others, nothing source List.mem_cons_self kept, List.nil_append]

end Utterance
