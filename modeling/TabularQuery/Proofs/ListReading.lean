import Mathlib.Data.List.Forall2
import TabularQuery.Proofs.StageErrors

/-! Lists that are read item by item, up to the first failure. What is read of an item does not depend on its position, which
only the failures tell. -/

namespace List

variable {α β γ ε : Type} {items before after : List α} {item : α} {values : List β} {read : Nat → α → Except ε β}

theorem forall₂_map_eq_iff {f : α → γ} {g : β → γ} :
    Forall₂ (fun item value => f item = g value) items values ↔ items.map f = values.map g := by
  rw [← @forall₂_eq_eq_eq γ, forall₂_map_left_iff, forall₂_map_right_iff]

theorem Forall₂.exists_right {reads : α → β → Prop} (pairs : Forall₂ reads items values) :
    ∀ item ∈ items, ∃ value, reads item value := by
  induction pairs with
  | nil => exact fun _ member => absurd member not_mem_nil
  | cons first _ ih => exact forall_mem_cons.mpr ⟨⟨_, first⟩, ih⟩

theorem mapM_mapIdx_eq_ok_iff {reads : α → β → Prop}
    (same : ∀ index item value, read index item = .ok value ↔ reads item value) :
    (items.mapIdx read).mapM id = .ok values ↔ Forall₂ reads items values := by
  induction items generalizing values read with
  | nil => simp [pure, Except.pure, eq_comm]
  | cons item items ih =>
    have rest : ∀ others, (items.mapIdx fun index => read (index + 1)).mapM id = .ok others ↔ Forall₂ reads items others :=
      fun others => ih fun index => same (index + 1)
    rw [mapIdx_cons, mapM_cons, forall₂_cons_left_iff]
    simp only [id_eq, bind, pure, Except.pure, Except.bind_eq_ok_iff, same, rest, Except.ok.injEq]
    constructor
    · rintro ⟨value, first, others, later, rfl⟩
      exact ⟨value, others, first, later, rfl⟩
    · rintro ⟨value, others, first, later, rfl⟩
      exact ⟨value, first, others, later, rfl⟩

theorem mapM_mapIdx_eq_error {error : ε} (succeed : ∀ other ∈ before, ∀ index, ∃ value, read index other = .ok value)
    (failed : read before.length item = .error error) :
    ((before ++ item :: after).mapIdx read).mapM id = .error error := by
  induction before generalizing read with
  | nil =>
    have first : read 0 item = .error error := failed
    rw [nil_append, mapIdx_cons, mapM_cons, id_eq, first]
    rfl
  | cons first before ih =>
    obtain ⟨value, passed⟩ := succeed first mem_cons_self 0
    have others : ∀ other ∈ before, ∀ index, ∃ value, read (index + 1) other = .ok value :=
      fun other member index => succeed other (mem_cons_of_mem first member) (index + 1)
    rw [cons_append, mapIdx_cons, mapM_cons, id_eq, passed, ih others failed]
    rfl

theorem takeWhile_isOk_mapIdx (succeed : ∀ other ∈ before, ∀ index, ∃ value, read index other = .ok value)
    (failed : ∀ item ∈ after.head?, ∃ error, read before.length item = .error error) :
    ((before ++ after).mapIdx read).takeWhile Except.isOk = before.mapIdx read := by
  rw [mapIdx_append, takeWhile_append_of_pos]
  · cases after with
    | nil => exact append_nil _
    | cons item after =>
      obtain ⟨error, failed⟩ := failed item rfl
      rw [mapIdx_cons, takeWhile_cons_of_neg, append_nil]
      rw [Nat.zero_add, failed]
      nofun
  · intro result member
    obtain ⟨index, inside, rfl⟩ := mem_mapIdx.mp member
    obtain ⟨value, passed⟩ := succeed _ (getElem_mem inside) index
    rw [passed]
    rfl

theorem exists_first_failing {property : α → Prop} (failing : ¬ ∀ item ∈ items, property item) :
    ∃ before item after, items = before ++ item :: after ∧ (∀ other ∈ before, property other) ∧ ¬ property item := by
  induction items with
  | nil => exact absurd (fun _ member => absurd member not_mem_nil) failing
  | cons first items ih =>
    by_cases holds : property first
    · rw [forall_mem_cons, not_and] at failing
      obtain ⟨before, item, after, rfl, earlier, fails⟩ := ih (failing holds)
      exact ⟨first :: before, item, after, rfl, forall_mem_cons.mpr ⟨holds, earlier⟩, fails⟩
    · exact ⟨[], first, items, rfl, fun _ member => absurd member not_mem_nil, holds⟩

end List
