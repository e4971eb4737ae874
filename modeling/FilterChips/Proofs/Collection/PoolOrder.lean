/-
FilterChips.Proofs.Collection.PoolOrder — the order of a pool is that of
the last insertions.

A pool is only changed by insertions and removals, and either may be
refused. What it lists can be read off the HISTORY of those that were
not, the insertions of the first labels among them: an insertion stands
as long as no later request of the history is about its label, and the
pool lists the insertions that stand (`labels_answerAll`). So a label that
is taken and inserted again is found at the end, and the others stay in
their order.

A single request does to a pool what it does to the standing insertions:
it takes its own label away, and an insertion puts it last
(`labels_answer`, `standing_concat`). For a pool the first half is two
facts. A removal takes away the first chip of a label, which is all of
them because no label is there twice; an insertion takes nothing away,
because it is refused where its label is there already.

Sections:

  §1 — requests and which of them succeed;
  §2 — insertions that stand;
  §3 — what one request does, and then a run of them;
  §4 — `listed_by_last_insertion`, over every run.
-/
import FilterChips.Pool
import Mathlib.Data.List.Induction

namespace FilterChips

namespace IdentifierPool

/-! ## §1 Requests and which of them succeed -/

/-- What can be asked of a pool. -/
inductive Request where
  | insert (chip : Chip)
  | take (label : String)
  deriving DecidableEq

/-- The label that a request is about. -/
def Request.label : Request → String
  | .insert chip => chip.label
  | .take label => label

/-- Whether a request succeeds, and the pool after it. -/
def answer (pool : IdentifierPool) : Request → Bool × IdentifierPool
  | .insert chip => (pool.accepts chip, pool.insert chip)
  | .take label =>
    match pool.take? label with
    | some (_, rest) => (true, rest)
    | none => (false, pool)

/-- The pool after some requests, the first of the list first. -/
def answerAll (pool : IdentifierPool) (requests : List Request) : IdentifierPool :=
  requests.foldl (fun pool request => (pool.answer request).2) pool

/-- Those of some requests that succeed when they are made one after
another. -/
def successes (pool : IdentifierPool) : List Request → List Request
  | [] => []
  | request :: later =>
    let (did, pool) := pool.answer request
    if did then request :: pool.successes later else pool.successes later

theorem answerAll_append (pool : IdentifierPool) (first second : List Request) :
    pool.answerAll (first ++ second) = (pool.answerAll first).answerAll second :=
  List.foldl_append

theorem answerAll_concat (pool : IdentifierPool) (requests : List Request) (last : Request) :
    pool.answerAll (requests ++ [last]) = ((pool.answerAll requests).answer last).2 :=
  answerAll_append pool requests [last]

theorem successes_concat (pool : IdentifierPool) (requests : List Request) (last : Request) :
    pool.successes (requests ++ [last]) =
      pool.successes requests ++
        if ((pool.answerAll requests).answer last).1 then [last] else [] := by
  induction requests generalizing pool with
  | nil => rfl
  | cons request later ih =>
    have rest := ih (pool.answer request).2
    simp only [List.cons_append, successes]
    rw [rest]
    split <;> rfl

/-- A pool of labels has answered to their insertions. -/
theorem ofLabels_eq_answerAll (labels : List String) :
    ofLabels labels = empty.answerAll (labels.map fun label => .insert (.ofLabel label)) := by
  unfold answerAll
  rw [List.foldl_map]
  rfl

theorem answer_insert_iff (pool : IdentifierPool) (chip : Chip) :
    (pool.answer (.insert chip)).1 = true ↔
      chip.isIdentifier = true ∧ chip.label ∉ pool.labels :=
  accepts_iff pool chip

theorem answer_take_of_mem {pool : IdentifierPool} {label : String} (h : label ∈ pool.labels) :
    pool.answer (.take label) = (true, pool.remove label) := by
  simp [answer, take?_of_mem h]

theorem answer_take_of_not_mem {pool : IdentifierPool} {label : String}
    (h : label ∉ pool.labels) : pool.answer (.take label) = (false, pool) := by
  simp [answer, take?_of_not_mem h]

theorem answer_take_iff (pool : IdentifierPool) (label : String) :
    (pool.answer (.take label)).1 = true ↔ label ∈ pool.labels := by
  by_cases present : label ∈ pool.labels
  · rw [answer_take_of_mem present]
    exact iff_of_true rfl present
  · rw [answer_take_of_not_mem present]
    exact iff_of_false Bool.false_ne_true present

/-- A request that fails leaves the pool as it was. -/
theorem answer_of_failed {pool : IdentifierPool} {request : Request}
    (h : (pool.answer request).1 = false) : (pool.answer request).2 = pool := by
  cases request with
  | insert chip => exact insert_of_not_accepts h
  | take label =>
    have absent : label ∉ pool.labels := by
      rw [← answer_take_iff, h]
      exact Bool.false_ne_true
    rw [answer_take_of_not_mem absent]

/-! ## §2 Insertions that stand -/

/-- The labels of those insertions among some requests after which no
request is about the same label. -/
def standing : List Request → List String
  | [] => []
  | .insert chip :: later =>
    if later.any (·.label = chip.label) then standing later else chip.label :: standing later
  | .take _ :: later => standing later

/-- The last of some requests that is about a label. -/
def lastAbout? (label : String) (history : List Request) : Option Request :=
  (history.filter (·.label = label)).getLast?

/-- What a request puts last. -/
def Request.adds : Request → List String
  | .insert chip => [chip.label]
  | .take _ => []

/-- That is its own label, if anything. -/
theorem Request.eq_label_of_mem_adds {request : Request} {label : String}
    (h : label ∈ request.adds) : label = request.label := by
  cases request with
  | insert chip => exact List.mem_singleton.mp h
  | take label => nomatch h

/-- One request more takes its label away, and an insertion puts it
last. -/
theorem standing_concat (history : List Request) (last : Request) :
    standing (history ++ [last]) =
      (standing history).filter (· ≠ last.label) ++ last.adds := by
  induction history with
  | nil => cases last <;> rfl
  | cons request later ih =>
    cases request with
    | take label => exact ih
    | insert chip =>
      have more : (later ++ [last]).any (·.label = chip.label) =
          (later.any (·.label = chip.label) || decide (last.label = chip.label)) := by
        simp [List.any_append]
      rw [List.cons_append, standing, standing, more, ih]
      by_cases again : later.any (·.label = chip.label) = true
      · simp [again]
      · by_cases same : last.label = chip.label
        · simp [again, same]
        · simp [again, same, Ne.symm same]

/-- An insertion of a label stands just when the last request about the
label is an insertion. -/
theorem mem_standing_iff (label : String) (history : List Request) :
    label ∈ standing history ↔ ∃ chip, lastAbout? label history = some (.insert chip) := by
  unfold lastAbout?
  induction history using List.reverseRecOn with
  | nil => simp [standing]
  | append_singleton history last ih =>
    rw [standing_concat, List.mem_append, List.mem_filter, ih, List.filter_append]
    by_cases about : last.label = label
    · subst about
      cases last with
      | insert chip => simp [Request.adds, Request.label]
      | take label => simp [Request.adds, Request.label]
    · have other : label ∉ last.adds := fun h => about (Request.eq_label_of_mem_adds h).symm
      simp [about, other, Ne.symm about]

/-! ## §3 What one request does, and then a run of them -/

/-- A request that succeeds does to the labels what it does to the
insertions that stand. -/
theorem labels_answer {pool : IdentifierPool} {request : Request}
    (h : (pool.answer request).1 = true) :
    (pool.answer request).2.labels =
      pool.labels.filter (· ≠ request.label) ++ request.adds := by
  cases request with
  | insert chip =>
    obtain ⟨identifier, absent⟩ := (answer_insert_iff pool chip).mp h
    have others : pool.labels.filter (· ≠ chip.label) = pool.labels := by
      rw [List.filter_eq_self]
      intro label present
      have other : label ≠ chip.label := by
        rintro rfl
        exact absent present
      simpa using other
    show (pool.insert chip).labels = pool.labels.filter (· ≠ chip.label) ++ [chip.label]
    rw [labels_insert_of_not_mem identifier absent, others]
  | take label =>
    have present := (answer_take_iff pool label).mp h
    rw [answer_take_of_mem present, labels_remove_eq_filter]
    exact (List.append_nil _).symm

/-- After any run the pool lists the insertions that stand. -/
theorem labels_answerAll (requests : List Request) :
    (empty.answerAll requests).labels = standing (empty.successes requests) := by
  induction requests using List.reverseRecOn with
  | nil => rfl
  | append_singleton requests last ih =>
    rw [answerAll_concat, successes_concat]
    cases did : ((empty.answerAll requests).answer last).1 with
    | false => rw [answer_of_failed did, ih, if_neg Bool.false_ne_true, List.append_nil]
    | true => rw [labels_answer did, ih, if_pos rfl, standing_concat]

/-! ## §4 Every run -/

/-- **A pool lists its identifiers by their last insertion**: after any
insertions and removals on a pool of labels, the chips are the identifiers
whose insertion stands, in the order of these insertions; no label is
there twice, and a label is there just when the last request about it that
succeeded was to insert it. An insertion succeeds if the chip is an
identifier of a new label, a removal if the label is there, and a request
that fails changes nothing. -/
theorem listed_by_last_insertion (labels : List String) (requests : List Request) :
    let pool := (ofLabels labels).answerAll requests
    let history := empty.successes
      (labels.map (fun label => .insert (.ofLabel label)) ++ requests)
    pool.chips = (standing history).map Chip.identifier ∧
      pool.labels.Nodup ∧
      (∀ label, label ∈ pool.labels ↔
        ∃ chip, lastAbout? label history = some (.insert chip)) ∧
      (∀ chip, (pool.answer (.insert chip)).1 = true ↔
        chip.isIdentifier = true ∧ chip.label ∉ pool.labels) ∧
      (∀ label, (pool.answer (.take label)).1 = true ↔ label ∈ pool.labels) ∧
      ∀ request, (pool.answer request).1 = false → (pool.answer request).2 = pool := by
  intro pool history
  have listed : pool.labels = standing history := by
    rw [← labels_answerAll, answerAll_append, ← ofLabels_eq_answerAll]
  refine ⟨?_, pool.nodup_labels, fun label => ?_, answer_insert_iff pool, answer_take_iff pool,
    fun request => answer_of_failed⟩
  · rw [← listed]
    exact pool.chips_eq_map_labels
  · rw [listed]
    exact mem_standing_iff label history

/-- A label that comes back is the last one; one that is refused keeps its
place. -/
theorem listed_by_last_insertion_of_pizza :
    let requests : List Request :=
      [.take "pizza", .insert (.ofLabel "tacos"), .take "sushi", .insert (.ofLabel "ramen"),
        .insert (.ofLabel "pizza")]
    let pool := (ofLabels ["pizza", "AND", "tacos", "pizza"]).answerAll requests
    pool.labels = ["tacos", "ramen", "pizza"] ∧
      (pool.answer (.insert (.condition .and))).1 = false ∧
      (pool.answer (.insert (.condition .and))).2 = pool := by
  intro requests pool
  have listed : pool.labels = ["tacos", "ramen", "pizza"] := by decide
  have refused : (pool.answer (.insert (.condition .and))).1 = false := by decide
  obtain ⟨-, -, -, -, -, unchanged⟩ :=
    listed_by_last_insertion ["pizza", "AND", "tacos", "pizza"] requests
  exact ⟨listed, refused, unchanged _ refused⟩

end IdentifierPool

end FilterChips
