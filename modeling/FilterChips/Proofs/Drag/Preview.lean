/-
FilterChips.Proofs.Drag.Preview — what a drag shows is what its release
does.

The engine and the collection each have a way of their own to move a
chip. `Engine.preview` cuts the other chips in two at the placeholder,
whatever the placeholder is; a release asks for a reorder only when the
placeholder is not the chip's own index, and `moveChip` then inserts at
an index that it first cuts down to the end. `preview_of_session` says
that the first way is the second one, and `apply_commitOf` that a release
moves the chip from its index to the placeholder in any case: the commit
it leaves out would move the chip to where it is.

Both hold for every index and every placeholder, in range or not.
-/
import FilterChips.Drag.Engine
import FilterChips.Proofs.Collection.Move

namespace FilterChips

namespace Drag

namespace Engine

variable {α : Type}

/-- Cutting a list in two is inserting at an index within it. -/
theorem take_cons_drop (chips : List Chip) (chip : Chip) (slot : Nat) :
    chips.take slot ++ chip :: chips.drop slot =
      chips.insertIdx (min slot chips.length) chip := by
  induction chips generalizing slot with
  | nil => simp
  | cons head chips ih =>
    cases slot with
    | zero => simp
    | succ slot => simp [Nat.succ_min_succ, ih slot]

/-- During a drag the dragged chip is shown moved to the placeholder. -/
theorem preview_of_session {engine : Engine α} {session : Session α}
    (h : engine.session = some session) (chips : List Chip) :
    engine.preview chips =
      Collection.moveChip chips session.index session.placeholder := by
  simp only [preview, h, Collection.moveChip]
  cases chips[session.index]? with
  | none => rfl
  | some chip => exact take_cons_drop (chips.eraseIdx session.index) chip session.placeholder

/-- Dropping the chip beside the trash moves it to the placeholder, also
when the commit says that nothing changed. -/
theorem apply_commitOf (session : Session α) (c : Collection) :
    c.apply (commitOf session false) =
      { c with
        sequence := Collection.moveChip c.sequence session.index
          session.placeholder }.scheduleValidation := by
  by_cases h : session.placeholder = session.index
  · simp [commitOf, h, Collection.apply, Collection.moveChip_self]
  · simp [commitOf, h, Collection.apply]

/-- **The preview is the commit**: dropping the chip beside the trash
makes the sequence what was shown and leaves the pool alone, for any
session and any sequence. What was shown is a permutation of the
sequence; and if there is a dragged chip, taking it out of the preview,
at the placeholder cut down to the last index, leaves what taking it out
of the sequence leaves. -/
theorem preview_is_committed (engine : Engine α) (c : Collection) :
    (c.apply (engine.release false).1).sequence = engine.preview c.sequence ∧
      (c.apply (engine.release false).1).pool = c.pool ∧
      (engine.preview c.sequence).Perm c.sequence ∧
      ∀ session, engine.session = some session → session.index < c.sequence.length →
        (engine.preview c.sequence).eraseIdx
            (min session.placeholder (c.sequence.length - 1)) =
          c.sequence.eraseIdx session.index ∧
        ∃ chip,
          (engine.preview c.sequence)[min session.placeholder (c.sequence.length - 1)]? =
            some chip ∧
          c.sequence[session.index]? = some chip := by
  cases hs : engine.session with
  | none =>
    rw [release_of_idle hs, preview_of_idle hs]
    exact ⟨rfl, rfl, .refl _, by simp⟩
  | some session =>
    rw [release_of_session hs, preview_of_session hs, apply_commitOf]
    refine ⟨rfl, rfl, Collection.perm_moveChip _ _ _, ?_⟩
    rintro session' hs' hi
    cases hs'
    refine ⟨Collection.eraseIdx_moveChip hi _, c.sequence[session.index], ?_, ?_⟩
    · exact Collection.getElem?_moveChip hi _
    · exact List.getElem?_eq_getElem hi

/-- A placeholder past the end shows the dragged chip last. -/
theorem preview_is_committed_past_end :
    let session : Session Double := ⟨0, 9, ⟨.nan, .nan⟩, ⟨.nan, .nan⟩, false, []⟩
    let engine : Engine Double := { idle .standard with session := some session }
    let c := Collection.ofInitial .empty ["pizza", "AND", "sushi"]
    engine.session = some session ∧ session.index < c.sequence.length ∧
      (engine.preview c.sequence).eraseIdx 2 = [.condition .and, .identifier "sushi"] ∧
      ∃ chip, (engine.preview c.sequence)[2]? = some chip ∧ c.sequence[0]? = some chip := by
  intro session engine c
  have present : session.index < c.sequence.length := by decide
  obtain ⟨-, -, -, moved⟩ := preview_is_committed engine c
  obtain ⟨others, same⟩ := moved session rfl present
  exact ⟨rfl, present, others, same⟩

end Engine

end Drag

end FilterChips
