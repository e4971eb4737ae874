/-
FilterChips.Proofs.Collection.Validation — the verdict is the one on the
current sequence, unless a validation is due.

Operations that change the sequence do not validate it, so the verdict may
lag behind. What keeps it honest is the flag `pending`. An operation takes
one of three courses, and its answer tells which (`perform_cases`): it
asks for a validation, or it runs the validator, or it leaves the
collection as it is. A refused addition and a removal beside the sequence
ask for nothing; a finished drag always asks, also when nothing moved.

So the flag can be read off the HISTORY of a collection, the list of what
its operations answered: it is set just when one of them has asked since
the last run of the validator (`pending_performAll_iff`). The counter
counts these runs (`runs_performAll`).

Sections:

  §1 — what happened since the last event of a kind;
  §2 — operations with their answers;
  §3 — the courses of one operation;
  §4 — `verdict_current_or_pending`, over every run.
-/
import FilterChips.Proofs.Collection.Edits
import Mathlib.Data.List.Induction

namespace FilterChips

/-! ## §1 Since the last event of a kind -/

/-- An event of the first kind has happened, and none of the second kind
after it. -/
def HappenedSince {α : Type} (first second : α → Bool) (history : List α) : Prop :=
  ∃ before event after, history = before ++ event :: after ∧ first event = true ∧
    ∀ later ∈ after, second later = false

section HappenedSince

variable {α : Type} {first second : α → Bool}

theorem not_happenedSince_nil : ¬ HappenedSince first second [] := by
  rintro ⟨before, event, after, split, -⟩
  simp at split

/-- The last event decides, or else what came before it. -/
theorem happenedSince_concat (history : List α) (event : α) :
    HappenedSince first second (history ++ [event]) ↔
      first event = true ∨ HappenedSince first second history ∧ second event = false := by
  constructor
  · rintro ⟨before, found, after, split, isFirst, noSecond⟩
    rcases List.eq_nil_or_concat after with rfl | ⟨after, last, rfl⟩
    · obtain ⟨-, same⟩ := List.append_inj' split rfl
      cases same
      exact .inl isFirst
    · have split' : history ++ [event] = (before ++ found :: after) ++ [last] := by simpa using split
      obtain ⟨rfl, same⟩ := List.append_inj' split' rfl
      cases same
      simp only [List.concat_eq_append, List.forall_mem_append, List.forall_mem_singleton] at noSecond
      exact .inr ⟨⟨before, found, after, rfl, isFirst, noSecond.1⟩, noSecond.2⟩
  · rintro (isFirst | ⟨⟨before, found, after, rfl, isFirst, noSecond⟩, notSecond⟩)
    · exact ⟨history, event, [], rfl, isFirst, by simp⟩
    · refine ⟨before, found, after ++ [event], by simp, isFirst, ?_⟩
      exact List.forall_mem_append.mpr ⟨noSecond, List.forall_mem_singleton.mpr notSecond⟩

end HappenedSince

namespace Collection

/-! ## §2 Operations with their answers -/

/-- An operation that was carried out, with what it answered. -/
inductive Event where
  | added (chip : Chip) (did : Bool)
  | cleared
  | trashed (index : Nat) (removed : Option Chip)
  | applied (commit : Drag.Commit)
  | scheduled
  | revalidated (ran : Bool)
  | validated (verdict : Verdict)
  deriving DecidableEq

namespace Event

/-- Whether the operation asked for a validation: an addition and a removal
did if they succeeded, a finished drag in any case. -/
def asks : Event → Bool
  | .added _ did => did
  | .cleared => true
  | .trashed _ removed => removed.isSome
  | .applied _ => true
  | .scheduled => true
  | .revalidated _ => false
  | .validated _ => false

/-- Whether the operation ran the validator. -/
def validates : Event → Bool
  | .revalidated ran => ran
  | .validated _ => true
  | _ => false

/-- Whether the operation ran the validator without a look at the
schedule. -/
def isValidated : Event → Bool
  | .validated _ => true
  | _ => false

theorem validates_of_asks {event : Event} (h : event.asks = true) : event.validates = false := by
  cases event <;> simp_all [asks, validates]

/-- There are two ways to run the validator. -/
theorem countP_validates (history : List Event) :
    history.countP validates =
      history.countP isValidated + history.count (.revalidated true) := by
  induction history with
  | nil => rfl
  | cons event history ih =>
    rw [List.countP_cons, List.countP_cons, List.count_cons, ih]
    cases event with
    | revalidated ran => cases ran <;> simp [validates, isValidated, Nat.add_assoc]
    | validated verdict => simp [validates, isValidated, Nat.add_right_comm]
    | _ => simp [validates, isValidated]

end Event

/-- What an operation answers. -/
def event (c : Collection) : Edit → Event
  | .add chip => .added chip (c.add chip).1
  | .clear => .cleared
  | .trash index => .trashed index (c.trash index).1
  | .apply commit => .applied commit
  | .scheduleValidation => .scheduled
  | .revalidate => .revalidated c.revalidate.1
  | .validateNow => .validated c.validateNow.verdict

/-- What some operations answer, carried out one after another. -/
def history (c : Collection) : List Edit → List Event
  | [] => []
  | edit :: edits => c.event edit :: (c.perform edit).history edits

theorem history_concat (c : Collection) (edits : List Edit) (edit : Edit) :
    c.history (edits ++ [edit]) = c.history edits ++ [(c.performAll edits).event edit] := by
  induction edits generalizing c with
  | nil => rfl
  | cons head edits ih => exact congrArg (c.event head :: ·) (ih (c.perform head))

theorem performAll_concat (c : Collection) (edits : List Edit) (edit : Edit) :
    c.performAll (edits ++ [edit]) = (c.performAll edits).perform edit :=
  performAll_append c edits [edit]

/-! ## §3 The courses of one operation -/

theorem revalidate_of_pending {c : Collection} (h : c.schedule.pending = true) :
    c.revalidate = (true, c.validateNow) := by
  simp [revalidate, h]

theorem revalidate_of_not_pending {c : Collection} (h : c.schedule.pending = false) :
    c.revalidate = (false, c) := by
  simp [revalidate, h]

/-- A `revalidate` says whether a validation was due. -/
theorem revalidate_fst (c : Collection) : c.revalidate.1 = c.schedule.pending := by
  cases hp : c.schedule.pending with
  | false => rw [revalidate_of_not_pending hp]
  | true => rw [revalidate_of_pending hp]

/-- After it none is due. -/
theorem pending_revalidate (c : Collection) : c.revalidate.2.schedule.pending = false := by
  cases hp : c.schedule.pending with
  | false => rw [revalidate_of_not_pending hp, hp]
  | true =>
    rw [revalidate_of_pending hp]
    rfl

/-- An operation asks for a validation, in which case the sequence and the
pool may be others afterwards, or it runs the validator, or it does
nothing. -/
theorem perform_cases (c : Collection) (edit : Edit) :
    ((c.event edit).asks = true ∧ (c.event edit).validates = false ∧
      ∃ sequence pool, c.perform edit = { c with sequence, pool }.scheduleValidation) ∨
    ((c.event edit).asks = false ∧ (c.event edit).validates = true ∧
      c.perform edit = c.validateNow) ∨
    ((c.event edit).asks = false ∧ (c.event edit).validates = false ∧ c.perform edit = c) := by
  cases edit with
  | add chip =>
    cases hi : chip.isIdentifier with
    | false =>
      simp only [perform, event, add_of_not_isIdentifier c hi]
      exact .inl ⟨rfl, rfl, _, _, rfl⟩
    | true =>
      by_cases hl : chip.label ∈ c.pool.labels
      · simp only [perform, event, add_of_mem c hi hl]
        exact .inl ⟨rfl, rfl, _, _, rfl⟩
      · simp only [perform, event, add_of_not_mem c hi hl]
        exact .inr (.inr ⟨rfl, rfl, trivial⟩)
  | clear => exact .inl ⟨rfl, rfl, _, _, rfl⟩
  | trash index =>
    by_cases hi : index < c.sequence.length
    · simp only [perform, event, trash_of_lt c hi]
      exact .inl ⟨rfl, rfl, _, _, rfl⟩
    · simp only [perform, event, trash_of_le c (Nat.le_of_not_lt hi)]
      exact .inr (.inr ⟨rfl, rfl, trivial⟩)
  | apply commit =>
    refine .inl ⟨rfl, rfl, ?_⟩
    cases commit with
    | remove index =>
      -- Beside the sequence nothing is removed, but a validation is due all the same.
      by_cases hi : index < c.sequence.length
      · simp only [perform, apply, trash_of_lt c hi]
        exact ⟨_, _, rfl⟩
      · simp only [perform, apply, trash_of_le c (Nat.le_of_not_lt hi)]
        exact ⟨c.sequence, c.pool, rfl⟩
    | reorder source target => exact ⟨_, _, rfl⟩
    | unchanged | cancelled => exact ⟨c.sequence, c.pool, rfl⟩
  | scheduleValidation => exact .inl ⟨rfl, rfl, c.sequence, c.pool, rfl⟩
  | revalidate =>
    cases hp : c.schedule.pending with
    | false =>
      simp only [perform, event, revalidate_of_not_pending hp]
      exact .inr (.inr ⟨rfl, rfl, trivial⟩)
    | true =>
      simp only [perform, event, revalidate_of_pending hp]
      exact .inr (.inl ⟨rfl, rfl, trivial⟩)
  | validateNow => exact .inr (.inl ⟨rfl, rfl, rfl⟩)

/-- What becomes of the schedule. -/
theorem schedule_perform (c : Collection) (edit : Edit) :
    (c.perform edit).schedule =
      ⟨(c.event edit).asks || (c.schedule.pending && !(c.event edit).validates),
        c.schedule.runs + if (c.event edit).validates then 1 else 0⟩ := by
  rcases c.perform_cases edit with
    ⟨asks, noRun, _, _, same⟩ | ⟨noAsk, validates, same⟩ | ⟨noAsk, noRun, same⟩
  · simp [asks, noRun, same, scheduleValidation]
  · simp [noAsk, validates, same, validateNow]
  · simp [noAsk, noRun, same]

/-- Without a run of the validator the verdict stays. -/
theorem verdict_perform_of_not_validates {c : Collection} {edit : Edit}
    (h : (c.event edit).validates = false) : (c.perform edit).verdict = c.verdict := by
  rcases c.perform_cases edit with ⟨-, -, _, _, same⟩ | ⟨-, validates, -⟩ | ⟨-, -, same⟩
  · rw [same]
    rfl
  · simp [h] at validates
  · rw [same]

/-- The verdict is the one on the current sequence, unless a validation is
due. -/
def IsCurrent (c : Collection) : Prop :=
  c.schedule.pending = true ∨ c.verdict = Expression.validate c.labels

theorem isCurrent_validateNow (c : Collection) : c.validateNow.IsCurrent :=
  .inr rfl

theorem isCurrent_perform (c : Collection) (edit : Edit) (h : c.IsCurrent) :
    (c.perform edit).IsCurrent := by
  rcases c.perform_cases edit with ⟨-, -, _, _, same⟩ | ⟨-, -, same⟩ | ⟨-, -, same⟩
  · rw [same]
    exact .inl rfl
  · rw [same]
    exact c.isCurrent_validateNow
  · rw [same]
    exact h

/-- In a reachable collection no stale verdict goes without a validation
being due. -/
theorem Reachable.isCurrent {c : Collection} (h : c.Reachable) : c.IsCurrent := by
  obtain ⟨pool, initial, edits, rfl⟩ := h
  exact performAll_induction isCurrent_perform edits _ (isCurrent_validateNow _)

/-! ## §4 Every run -/

/-- A validation is due just when one has been asked for since the last
one; before the first operation none is. -/
theorem pending_performAll_iff {c : Collection} (h : c.schedule.pending = false)
    (edits : List Edit) :
    (c.performAll edits).schedule.pending = true ↔
      HappenedSince Event.asks Event.validates (c.history edits) := by
  induction edits using List.reverseRecOn with
  | nil => simp [h, history, not_happenedSince_nil]
  | append_singleton edits edit ih =>
    rw [performAll_concat, history_concat, happenedSince_concat, ← ih, schedule_perform]
    simp

/-- The counter counts the runs of the validator. -/
theorem runs_performAll (c : Collection) (edits : List Edit) :
    (c.performAll edits).schedule.runs =
      c.schedule.runs + (c.history edits).countP Event.validates := by
  induction edits using List.reverseRecOn with
  | nil => rfl
  | append_singleton edits edit ih =>
    rw [performAll_concat, history_concat, schedule_perform, ih, List.countP_append,
      List.countP_singleton, Nat.add_assoc]

/-- **No stale verdict without a validation being due**: after any
operations on a collection built from a pool and an initial expression, a
validation is due or the verdict is the one on the current labels. A
`revalidate` says that it ran just when some operation has asked for a
validation since the last one; it then runs the validator once, and
otherwise changes nothing. And the counter is one for the beginning, one
for each operation that validates at once, and one for each `revalidate`
that said it ran. -/
theorem verdict_current_or_pending (pool : IdentifierPool) (initial : List String)
    (edits : List Edit) :
    let c := (ofInitial pool initial).performAll edits
    let history := (ofInitial pool initial).history edits
    (c.schedule.pending = true ∨ c.verdict = Expression.validate c.labels) ∧
      (c.revalidate.1 = true ↔ HappenedSince Event.asks Event.validates history) ∧
      (c.revalidate.1 = true → c.revalidate.2 =
        { c with
          verdict := Expression.validate c.labels
          schedule := ⟨false, c.schedule.runs + 1⟩ }) ∧
      (c.revalidate.1 = false → c.revalidate.2 = c) ∧
      c.schedule.runs =
        1 + history.countP Event.isValidated + history.count (.revalidated true) := by
  intro c history
  have current : c.IsCurrent := Reachable.isCurrent ⟨pool, initial, edits, rfl⟩
  have due : c.schedule.pending = true ↔ HappenedSince Event.asks Event.validates history :=
    pending_performAll_iff rfl edits
  have counted : c.schedule.runs = 1 + history.countP Event.validates := runs_performAll _ edits
  rw [revalidate_fst]
  refine ⟨current, due, ?_, ?_, ?_⟩
  · intro pending
    rw [revalidate_of_pending pending]
    rfl
  · intro notPending
    rw [revalidate_of_not_pending notPending]
  · rw [counted, Event.countP_validates, Nat.add_assoc]

end Collection

end FilterChips
