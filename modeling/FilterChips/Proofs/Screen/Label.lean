/-
FilterChips.Proofs.Screen.Label — what is left of a label that is shortened.

A label is measured as a text, but cut by the widths of its characters on
their own. What is kept is the longest beginning whose characters leave a
column for the ellipsis (`prefix_fitting`). Taken together they may be wider
than one by one, a column for each control and each selector of a wide form
(`textWidth_le`). So a shortened label has the width asked for, unless there
are such characters in it; §2 ends with one that is wider than before.
-/
import FilterChips.Proofs.Text.Width
import FilterChips.Screen.Label

namespace FilterChips

namespace Label

open Width (columnsOf columnsOf_append widens)

/-! ## §1 The characters that are kept -/

theorem fitting_isPrefix (room : Nat) (cs : List Char) : fitting room cs <+: cs := by
  induction cs generalizing room with
  | nil => exact List.prefix_rfl
  | cons c cs ih =>
    rw [fitting]
    split
    · exact List.nil_prefix
    · exact (List.prefix_cons_inj c).mpr (ih _)

theorem columnsOf_fitting_lt {room : Nat} (some : 0 < room) (cs : List Char) :
    columnsOf (fitting room cs) < room := by
  induction cs generalizing room with
  | nil => exact some
  | cons c cs ih =>
    rw [fitting]
    split
    · exact some
    · have rest : columnsOf (fitting (room - columns c) cs) < room - columns c := ih (by omega)
      rw [columnsOf]
      omega

/-- Any beginning of a text that leaves a column is kept. -/
theorem prefix_fitting {room : Nat} {cs kept : List Char} (first : kept <+: cs)
    (fits : columnsOf kept < room) : kept <+: fitting room cs := by
  induction cs generalizing room kept with
  | nil => exact first
  | cons c cs ih =>
    cases kept with
    | nil => exact List.nil_prefix
    | cons d kept =>
      obtain ⟨rfl, rest⟩ := List.cons_prefix_cons.mp first
      rw [columnsOf] at fits
      rw [fitting, if_neg (by omega)]
      exact (List.prefix_cons_inj d).mpr (ih rest (by omega))

/-! ## §2 The width of a shortened label -/

theorem fit_of_le {label : String} {room : Nat} (h : textWidth label.toList ≤ room) :
    fit label room = label :=
  if_pos h

theorem toList_fit_of_lt {label : String} {room : Nat} (wide : room < textWidth label.toList)
    (some : 0 < room) : (fit label room).toList = fitting room label.toList ++ [ellipsis] := by
  rw [fit, if_neg (Nat.not_le.mpr wide), if_neg (Nat.ne_of_gt some), String.toList_ofList]

theorem textWidth_fitting_le {room : Nat} (some : 0 < room) (cs : List Char) :
    textWidth (fitting room cs ++ [ellipsis]) ≤
      room + (fitting room cs ++ [ellipsis]).countP widens := by
  have sum : columnsOf (fitting room cs ++ [ellipsis]) = columnsOf (fitting room cs) + 1 := by
    have one : columns ellipsis = 1 := by decide +kernel
    rw [columnsOf_append, columnsOf, columnsOf, one]
  have wide := textWidth_le (fitting room cs ++ [ellipsis])
  have narrow := columnsOf_fitting_lt some cs
  omega

theorem textWidth_fit_le (label : String) (room : Nat) :
    textWidth (fit label room).toList ≤ room + (fit label room).toList.countP widens := by
  rcases Nat.lt_or_ge room (textWidth label.toList) with wide | narrow
  · rcases Nat.eq_zero_or_pos room with rfl | some
    · rw [fit, if_neg (Nat.not_le.mpr wide), if_pos rfl]
      exact Nat.zero_le _
    · rw [toList_fit_of_lt wide some]
      exact textWidth_fitting_le some label.toList
  · rw [fit_of_le narrow]
    omega

/-- A shortened label has the characters of the label, and the ellipsis. -/
theorem mem_toList_fit {label : String} {room : Nat} {c : Char}
    (h : c ∈ (fit label room).toList) : c ∈ label.toList ∨ c = ellipsis := by
  rcases Nat.lt_or_ge room (textWidth label.toList) with wide | narrow
  · rcases Nat.eq_zero_or_pos room with rfl | some
    · rw [fit, if_neg (Nat.not_le.mpr wide), if_pos rfl] at h
      cases h
    · rw [toList_fit_of_lt wide some, List.mem_append, List.mem_singleton] at h
      exact h.imp_left fun kept => (fitting_isPrefix _ _).subset kept
  · rw [fit_of_le narrow] at h
    exact .inl h

theorem countP_widens_fit {label : String} (plain : ∀ c ∈ label.toList, widens c = false)
    (room : Nat) : (fit label room).toList.countP widens = 0 := by
  refine List.countP_eq_zero.mpr fun c hc => ?_
  rcases mem_toList_fit hc with kept | rfl
  · simp [plain c kept]
  · decide

/-- **A shortened label fits, but for characters that widen it**: a label
that fits is left as it is. Of another one nothing is left when there is no
room, and else its longest beginning whose characters leave a column, with
the ellipsis. The result is wider than the room by a column at most for
each control and each selector of a wide form in it, so a label without
them is shortened to the room. -/
theorem fit_within_room (label : String) (room : Nat) :
    (textWidth label.toList ≤ room → fit label room = label) ∧
    (room < textWidth label.toList →
      room = 0 ∧ fit label room = "" ∨
      ∃ kept, fit label room = String.ofList (kept ++ [ellipsis]) ∧
        kept <+: label.toList ∧ columnsOf kept < room ∧
        ∀ longer, longer <+: label.toList → columnsOf longer < room → longer <+: kept) ∧
    textWidth (fit label room).toList ≤ room + (fit label room).toList.countP widens ∧
    ((∀ c ∈ label.toList, widens c = false) → textWidth (fit label room).toList ≤ room) := by
  refine ⟨fit_of_le, fun wide => ?_, textWidth_fit_le label room, fun plain => ?_⟩
  · rcases Nat.eq_zero_or_pos room with rfl | some
    · left
      exact ⟨rfl, by rw [fit, if_neg (Nat.not_le.mpr wide), if_pos rfl]⟩
    · right
      refine ⟨fitting room label.toList, ?_, fitting_isPrefix _ _, columnsOf_fitting_lt some _,
        fun longer => prefix_fitting⟩
      rw [← toList_fit_of_lt wide some, String.ofList_toList]
  · have width := textWidth_fit_le label room
    rwa [countP_widens_fit plain] at width

/-- Letters are shortened to the room. -/
theorem fit_within_room_of_letters :
    let label := "pizzeria"
    5 < textWidth label.toList ∧ (∀ c ∈ label.toList, widens c = false) ∧
      (∃ kept, fit label 5 = String.ofList (kept ++ [ellipsis]) ∧ "pizz".toList <+: kept) ∧
      textWidth (fit label 5).toList ≤ 5 := by
  intro label
  have wide : 5 < textWidth label.toList := by decide +kernel
  have letters : label.toList.all (fun c => !widens c) = true := by decide
  have plain : ∀ c ∈ label.toList, widens c = false := by simpa using letters
  obtain ⟨-, cut, -, within⟩ := fit_within_room label 5
  refine ⟨wide, plain, ?_, within plain⟩
  rcases cut wide with ⟨none, -⟩ | ⟨kept, shortened, -, -, longest⟩
  · cases none
  · exact ⟨kept, shortened, longest "pizz".toList (by decide) (by decide)⟩

/-- Two hearts in three columns: they are four columns wide by their
selectors, none of which is counted when they are cut. All is kept, and the
ellipsis makes it five. -/
theorem fit_widens_hearts :
    let label := "\u2764\ufe0f\u2764\ufe0f"
    textWidth label.toList = 4 ∧ fit label 3 = label ++ "…" ∧
      textWidth (fit label 3).toList = 5 := by
  decide +kernel

end Label

end FilterChips
