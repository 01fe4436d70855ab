/-
`Konclave.A2ATaskStoreSqlite`: the list of a context, page by page.

A page goes on below the pair of creation time and identifier that the page before it ended
with. Nothing of the list is kept between two pages, so the calls of others may fall between
them.
-/
import Konclave.A2A.TaskAppends
import Konclave.Keyset

set_option autoImplicit false

namespace Konclave.A2A

open Domain Scene List

variable {δ : Type} [DecidableEq δ] {sha : Sha256 δ} {config : A2ASqliteTaskStoreConfig}
  {store : TaskTables δ} {context : ContextKey} {cursor : Option A2ATaskListCursor}

/-- The cursor of a page that ends with a task. -/
def TaskRow.list_cursor (row : TaskRow δ) : A2ATaskListCursor :=
  ⟨row.created_at_unix_milliseconds, row.identity.key.task_id⟩

def A2ATaskRecord.list_key (task : A2ATaskRecord δ) : List (List ℕ) :=
  A2ATaskListCursor.list_key ⟨task.created_at_unix_milliseconds, task.key.task_id⟩

/-- What is left of a list below a cursor, the latest task first. -/
def TaskTables.listed (store : TaskTables δ) (context : ContextKey)
    (cursor : Option A2ATaskListCursor) : List (TaskRow δ) :=
  ((visible_tasks store context).filter fun row =>
    ∀ c ∈ cursor, row.list_key < c.list_key).insertionSort fun x y => y.list_key ≤ x.list_key

/-- Pages that are read one after the other, each after some calls of others and with a size
of its own, until one has no cursor. With each page come the tables it was read from. -/
def follow (sha : Sha256 δ) (config : A2ASqliteTaskStoreConfig) (context : ContextKey) :
    Option A2ATaskListCursor → TaskTables δ → List (List TaskStoreCall × ℕ) →
    Except A2ATaskStoreError (List (TaskTables δ × A2ATaskListPage δ))
  | _, _, [] => .ok []
  | cursor, store, (calls, page_size) :: rounds => do
    let store := store.after sha config calls
    let page ← list_tasks sha ⟨context, page_size, cursor⟩ store
    match page.next_cursor with
    | none => pure [(store, page)]
    | some cursor => do
      let pages ← follow sha config context (some cursor) store rounds
      pure ((store, page) :: pages)

/-! ## One page

A page is a segment of the visible tasks in descending order, with one row of lookahead. -/

section

omit [DecidableEq δ]

theorem mem_listed {row : TaskRow δ} : row ∈ store.listed context cursor ↔
    row ∈ visible_tasks store context ∧ ∀ c ∈ cursor, row.list_key < c.list_key := by
  simp only [TaskTables.listed, mem_insertionSort, mem_filter, decide_eq_true_eq]

theorem mem_visible {row : TaskRow δ} : row ∈ visible_tasks store context ↔
    row ∈ store.tasks.rows ∧ row.identity.context_key = context ∧ row.content_pruned = false := by
  simp only [visible_tasks, mem_filter, decide_eq_true_eq]

theorem collation_injective : Function.Injective collation :=
  map_injective_iff.2 fun _ _ h => UInt8.toNat_inj.1 h

/-- Two tasks of a context differ in their creation or in their identifier. -/
theorem list_key_inj {x y : TaskRow δ} (hx : x ∈ visible_tasks store context)
    (hy : y ∈ visible_tasks store context) (h : x.list_key = y.list_key) : x = y := by
  obtain ⟨hx, hctx, -⟩ := mem_visible.1 hx
  obtain ⟨hy, hctx', -⟩ := mem_visible.1 hy
  refine store.tasks.eq_of_key_eq hx hy ?_
  have hsame := hctx.trans hctx'.symm
  simp only [A2ATaskIdentity.context_key, ContextKey.mk.injEq] at hsame
  simp only [TaskRow.list_key, cons.injEq, and_true] at h
  have hid := A2ATaskId.ext (collation_injective h.2)
  cases hkx : x.identity.key
  cases hky : y.identity.key
  simp_all

variable (store context cursor) in
theorem listed_descending :
    (store.listed context cursor).Pairwise fun x y => y.list_key < x.list_key := by
  have hsorted : (store.listed context cursor).Pairwise fun x y => y.list_key ≤ x.list_key :=
    pairwise_insertionSort _ _
  have hnodup : (store.listed context cursor).Nodup := (perm_insertionSort _ _).nodup_iff.2
      (((List.Nodup.of_map _ store.tasks.nodup).filter _).filter _)
  refine (hsorted.and hnodup).imp_of_mem fun hx hy hle => lt_of_le_of_ne hle.1 fun heq => ?_
  exact hle.2 (list_key_inj (mem_listed.1 hx).1 (mem_listed.1 hy).1 heq.symm)

/-- Below a task of a list stands what the list has after it. -/
theorem listed_below {init rest : List (TaskRow δ)} {last : TaskRow δ}
    (h : store.listed context cursor = init ++ last :: rest) :
    store.listed context (some last.list_cursor) = rest := by
  have hdesc := listed_descending store context cursor
  rw [h, pairwise_append, pairwise_cons] at hdesc
  obtain ⟨-, ⟨hlast, hrest⟩, hinit⟩ := hdesc
  have hsame : ∀ row, row ∈ store.listed context (some last.list_cursor) ↔ row ∈ rest := by
    intro row
    have hmem : row ∈ store.listed context cursor ↔ row ∈ init ∨ row = last ∨ row ∈ rest := by
      rw [h, mem_append, mem_cons]
    have hlisted : last ∈ store.listed context cursor := by
      rw [h]
      exact mem_append_right _ mem_cons_self
    simp only [mem_listed, Option.mem_some_iff, forall_eq']
    constructor
    · rintro ⟨hrow, hlt⟩
      -- a task before the last one is later than it
      rcases hmem.1 (mem_listed.2 ⟨hrow, fun c hc => hlt.trans ((mem_listed.1 hlisted).2 c hc)⟩)
        with hrow | rfl | hrow
      · exact absurd hlt (hinit row hrow last mem_cons_self).asymm
      · exact absurd hlt (lt_irrefl _)
      · exact hrow
    · intro hrow
      exact ⟨(mem_listed.1 (hmem.2 (.inr (.inr hrow)))).1, hlast row hrow⟩
  have hdesc' := listed_descending store context (some last.list_cursor)
  refine List.Perm.eq_of_pairwise (fun x y _ _ hxy hyx => absurd hxy hyx.asymm) hdesc' hrest ?_
  have hnodup {l : List (TaskRow δ)} (hl : l.Pairwise fun x y => y.list_key < x.list_key) :
      l.Nodup := hl.imp fun hlt => fun heq => lt_irrefl _ (heq ▸ hlt)
  exact (perm_ext_iff_of_nodup (hnodup hdesc') (hnodup hrest)).2 hsame

end

/-- What a page holds: the first part of what is left, which is all of it or ends with the
task of the cursor. -/
theorem TaskTables.Kept.list_tasks_cases (h : store.Kept sha config) (context : ContextKey)
    {page_size : ℕ} (hsize : ¬ (page_size = 0 ∨ MAX_PAGE_SIZE < page_size))
    (hcursor : ∀ c ∈ cursor, c.created_at_unix_milliseconds ≤ I64_MAX) :
    ∃ page part rest, A2A.list_tasks sha ⟨context, page_size, cursor⟩ store = .ok page
    ∧ page.total_size = (visible_tasks store context).length
    ∧ page.tasks = part.map store.record_of ∧ store.listed context cursor = part ++ rest
    ∧ ((page.next_cursor = none ∧ rest = [])
      ∨ ∃ init last, page.next_cursor = some last.list_cursor ∧ part = init ++ [last]) := by
  have hrows : load_task_page_rows store ⟨context, page_size, cursor⟩
      = .ok ((store.listed context cursor).take (page_size + 1)) := by
    unfold load_task_page_rows TaskTables.listed
    cases cursor with
    | none => simp [pure, Except.pure]
    | some cursor =>
      simp only [to_sql_eq_ok.2 ⟨hcursor cursor rfl, rfl⟩, ok_bind]
      simp [pure, Except.pure]
  have hload : ∀ row ∈ (store.listed context cursor).take page_size,
      load_task sha store row.identity.key = .ok (store.record_of row) := by
    intro row hrow
    exact h.load_task_ok
      (Table.get?_of_mem _ (mem_visible.1 (mem_listed.1 (mem_of_mem_take hrow)).1).1)
  unfold A2A.list_tasks validate_list_page_size A2A.load_task_page
  rw [require_bind hsize, hrows, ok_bind, take_take, min_eq_left (Nat.le_succ _),
    mapM_ok hload, ok_bind]
  refine ⟨_, _, _, rfl, rfl, rfl, (take_append_drop page_size _).symm, ?_⟩
  by_cases hmore : page_size < (store.listed context cursor).length
  · have hlen : page_size < ((store.listed context cursor).take (page_size + 1)).length := by
      rw [length_take]
      omega
    cases hlast : ((store.listed context cursor).take page_size).getLast? with
    | none =>
      rw [getLast?_eq_none_iff, take_eq_nil_iff] at hlast
      rcases hlast with hzero | hnil
      · exact absurd (.inl hzero) hsize
      · simp [hnil] at hmore
    | some last =>
      obtain ⟨init, htake⟩ := getLast?_eq_some_iff.1 hlast
      refine .inr ⟨init, last, ?_, htake⟩
      rw [if_pos hlen, getLast?_map, hlast]
      rfl
  · have hlen : ¬ page_size < ((store.listed context cursor).take (page_size + 1)).length := by
      rw [length_take]
      omega
    exact .inl ⟨if_neg hlen, drop_of_length_le (not_lt.1 hmore)⟩

/-- The cursor of a page can be stored. -/
theorem TaskTables.Kept.cursor_le (h : store.Kept sha config) {init rest : List (TaskRow δ)}
    {last : TaskRow δ} (hlisted : store.listed context cursor = init ++ [last] ++ rest) :
    ∀ c ∈ some last.list_cursor, c.created_at_unix_milliseconds ≤ I64_MAX := by
  have hlast : last ∈ store.listed context cursor := by
    rw [hlisted]
    exact mem_append_left _ (mem_append_right _ mem_cons_self)
  have hrow := Table.get?_of_mem _ (mem_visible.1 (mem_listed.1 hlast).1).1
  rintro _ ⟨⟩
  exact ((h.under _).task last hrow).created

/-- A page of tasks with their artifacts is the page of the tasks, each with its first
artifacts. -/
theorem TaskTables.Kept.list_tasks_with_artifacts_eq (h : store.Kept sha config)
    (query : A2ATaskListQuery) {artifact_limit : ℕ}
    (hlimit : ¬ (artifact_limit = 0 ∨ MAX_PAGE_SIZE < artifact_limit)) :
    A2A.list_tasks_with_artifacts sha config query artifact_limit store
    = (A2A.list_tasks sha query store).map fun page => (page.tasks.map fun task =>
        (task, ((store.artifacts_of task.key).take
          (min artifact_limit config.max_artifacts_per_task)).map ArtifactRow.stored), page) := by
  unfold A2A.list_tasks_with_artifacts A2A.list_tasks validate_artifact_read_limit
  cases validate_list_page_size query.page_size with
  | error e => rfl
  | ok _ =>
    rw [ok_bind, ok_bind, require_bind hlimit]
    cases A2A.load_task_page sha store query with
    | error e => rfl
    | ok page =>
      have hartifacts : ∀ task ∈ page.tasks, (do
          let artifacts ← load_artifacts sha store task.key
            (min artifact_limit config.max_artifacts_per_task)
          pure (task, artifacts)) = .ok (task, ((store.artifacts_of task.key).take
            (min artifact_limit config.max_artifacts_per_task)).map ArtifactRow.stored) := by
        intro task _
        rw [h.load_artifacts_eq]
        rfl
      simp only [ok_bind, pure_bind, mapM_ok hartifacts]
      rfl

/-! ## The pages of a list

The pages are those of a keyset scan, which is a library of its own (`Konclave.Keyset`). -/

/-- A page as the keys it holds, out of those that were there. -/
def keyset (context : ContextKey) (read : TaskTables δ × A2ATaskListPage δ) :
    Keyset.Page (List (List ℕ)) where
  members := (visible_tasks read.1 context).map (·.list_key)
  keys := read.2.tasks.map (·.list_key)
  next := read.2.next_cursor.map (·.list_key)

omit [DecidableEq δ] in
theorem keyset_serves {page : A2ATaskListPage δ} {part rest : List (TaskRow δ)}
    (htasks : page.tasks = part.map store.record_of)
    (hlisted : store.listed context cursor = part ++ rest)
    (hnext : (page.next_cursor = none ∧ rest = [])
      ∨ ∃ init last, page.next_cursor = some last.list_cursor ∧ part = init ++ [last]) :
    (keyset context (store, page)).Serves (cursor.map (·.list_key)) := by
  have hkeys : (keyset context (store, page)).keys ++ rest.map (·.list_key)
      = (store.listed context cursor).map (·.list_key) := by
    simp only [keyset, htasks, hlisted, map_append, map_map]
    rfl
  refine Keyset.Page.serves (rest.map (·.list_key)) ?_ ?_ ?_
  · intro k
    rw [hkeys]
    simp only [keyset, mem_map, mem_listed, Option.forall_mem_map]
    constructor
    · rintro ⟨row, ⟨hrow, hbelow⟩, rfl⟩
      exact ⟨⟨row, hrow, rfl⟩, hbelow⟩
    · rintro ⟨⟨row, hrow, rfl⟩, hbelow⟩
      exact ⟨row, ⟨hrow, hbelow⟩, rfl⟩
  · rw [hkeys, pairwise_map]
    exact listed_descending store context cursor
  · rcases hnext with ⟨hnone, rfl⟩ | ⟨init, last, hsome, rfl⟩
    · exact .inl ⟨by simp [keyset, hnone], rfl⟩
    · refine .inr ⟨init.map (·.list_key), last.list_key, ?_, ?_⟩
      · simp only [keyset, hsome, Option.map_some]
        rfl
      · simp only [keyset, htasks, map_append, map_map]
        rfl

theorem follow_follows (context : ContextKey) (hsha : sha.Ideal)
    (hcfg : config.validate = .ok ()) (h : store.Sound sha config)
    (hcursor : ∀ c ∈ cursor, c.created_at_unix_milliseconds ≤ I64_MAX)
    {rounds : List (List TaskStoreCall × ℕ)}
    (hsize : ∀ round ∈ rounds, ¬ (round.2 = 0 ∨ MAX_PAGE_SIZE < round.2)) :
    ∃ pages, follow sha config context cursor store rounds = .ok pages
    ∧ Keyset.Follows (cursor.map (·.list_key)) (pages.map (keyset context)) := by
  induction rounds generalizing store cursor with
  | nil => exact ⟨[], rfl, .nil⟩
  | cons round rounds ih =>
    obtain ⟨calls, page_size⟩ := round
    have hlater := h.after hsha hcfg calls
    obtain ⟨page, part, rest, hpage, -, htasks, hlisted, hnext⟩ :=
      hlater.kept.list_tasks_cases context (hsize _ mem_cons_self) hcursor
    have hserves := keyset_serves htasks hlisted hnext
    unfold follow
    simp only [hpage, ok_bind]
    rcases hnext with ⟨hnone, -⟩ | ⟨init, last, hsome, rfl⟩
    · simp only [hnone]
      exact ⟨_, rfl, .last hserves (by simp [keyset, hnone])⟩
    · obtain ⟨pages, hpages, hfollows⟩ := ih hlater (hlater.kept.cursor_le hlisted)
        fun round hround => hsize round (mem_cons_of_mem _ hround)
      simp only [hsome, hpages, ok_bind]
      exact ⟨_, rfl, .more hserves (by simp [keyset, hsome]) hfollows⟩

/-- While the tables stay as they are, the pages are the whole list. -/
theorem follow_fixed (h : store.Sound sha config)
    (hcursor : ∀ c ∈ cursor, c.created_at_unix_milliseconds ≤ I64_MAX) {sizes : List ℕ}
    (hsize : ∀ size ∈ sizes, ¬ (size = 0 ∨ MAX_PAGE_SIZE < size))
    (hlen : (store.listed context cursor).length < sizes.length) :
    ∃ pages, follow sha config context cursor store (sizes.map fun size => ([], size)) = .ok pages
    ∧ (∃ read ∈ pages, read.2.next_cursor = none)
    ∧ pages.flatMap (·.2.tasks) = (store.listed context cursor).map store.record_of
    ∧ ∀ read ∈ pages, read.2.total_size = (visible_tasks store context).length := by
  induction sizes generalizing cursor with
  | nil => exact absurd hlen (Nat.not_lt_zero _)
  | cons size sizes ih =>
    obtain ⟨page, part, rest, hpage, htotal, htasks, hlisted, hnext⟩ :=
      h.kept.list_tasks_cases context (hsize _ mem_cons_self) hcursor
    have hsame : store.after sha config [] = store := rfl
    simp only [map_cons, follow, hsame, hpage, ok_bind]
    rcases hnext with ⟨hnone, rfl⟩ | ⟨init, last, hsome, rfl⟩
    · simp only [hnone]
      refine ⟨_, rfl, ⟨_, mem_cons_self, hnone⟩, ?_, by simpa using htotal⟩
      simp [htasks, hlisted]
    · have hbelow : store.listed context (some last.list_cursor) = rest :=
        listed_below (hlisted.trans (append_assoc _ _ _))
      have hlen : (store.listed context (some last.list_cursor)).length < sizes.length := by
        rw [hlisted, length_append, length_append] at hlen
        rw [hbelow]
        simp only [length_cons, length_nil] at hlen
        omega
      obtain ⟨pages, hpages, ⟨read, hread, hend⟩, htasks', htotals⟩ :=
        ih (h.kept.cursor_le hlisted) (fun size hmem => hsize size (mem_cons_of_mem _ hmem)) hlen
      simp only [hsome, hpages, ok_bind]
      refine ⟨_, rfl, ⟨read, mem_cons_of_mem _ hread, hend⟩, ?_, ?_⟩
      · rw [flatMap_cons, htasks', hbelow, htasks, hlisted, ← map_append]
      · exact forall_mem_cons.2 ⟨htotal, htotals⟩

/-! ## Lists

What holds when the store stays as it is, and when it changes between two pages. -/

/-- What holds of the lists that are read from a store on. -/
structure ListsSoundly (sha : Sha256 δ) (config : A2ASqliteTaskStoreConfig)
    (store : TaskTables δ) : Prop where
  /-- While the store stays as it is, the pages come to an end, whatever their sizes, and are
  the tasks of the context whose content is kept, the latest first. -/
  fixed : ∀ context (sizes : List ℕ), (∀ size ∈ sizes, ¬ (size = 0 ∨ MAX_PAGE_SIZE < size)) →
    (visible_tasks store context).length < sizes.length →
    ∃ pages, follow sha config context none store (sizes.map fun size => ([], size)) = .ok pages
    ∧ (∃ read ∈ pages, read.2.next_cursor = none)
    ∧ pages.flatMap (·.2.tasks)
      = ((visible_tasks store context).insertionSort fun x y => y.list_key ≤ x.list_key).map
        store.record_of
    ∧ (∀ read ∈ pages, read.2.total_size = (visible_tasks store context).length)
  /-- Whatever is called between the pages, they are read in descending order, so that no
  creation is read twice, and none is passed over that is in the list at every page. -/
  changing : ∀ context (rounds : List (List TaskStoreCall × ℕ)),
    (∀ round ∈ rounds, ¬ (round.2 = 0 ∨ MAX_PAGE_SIZE < round.2)) →
    ∃ pages, follow sha config context none store rounds = .ok pages
    ∧ (pages.flatMap (·.2.tasks)).Pairwise (fun x y => y.list_key < x.list_key)
    ∧ ∀ k, (∃ read ∈ pages, read.2.next_cursor = none) →
      (∀ read ∈ pages, ∃ row ∈ visible_tasks read.1 context, row.list_key = k) →
      ∃ task ∈ pages.flatMap (·.2.tasks), task.list_key = k
  /-- A page of tasks with their artifacts is the page of the tasks, each with its first
  artifacts. -/
  with_artifacts : ∀ query artifact_limit, ¬ (artifact_limit = 0 ∨ MAX_PAGE_SIZE < artifact_limit) →
    list_tasks_with_artifacts sha config query artifact_limit store
    = (list_tasks sha query store).map fun page => (page.tasks.map fun task =>
        (task, ((store.artifacts_of task.key).take
          (min artifact_limit config.max_artifacts_per_task)).map ArtifactRow.stored), page)
  /-- A task that is not removed keeps its place. -/
  place : ∀ key row more, store.tasks.get? key = some row → StillThere sha config key store more →
    ∃ row', (store.after sha config more).tasks.get? key = some row'
      ∧ row'.list_key = row.list_key ∧ row'.identity = row.identity

/-- The pages of a context are its tasks, in order and each once, and what happens between two
pages can only add or remove tasks. -/
theorem lists_soundly (hsha : sha.Ideal) (hconfig : config.validate = .ok ())
    (calls : List TaskStoreCall) : ListsSoundly sha config (store_after sha config calls) := by
  have h := store_after_sound hsha hconfig calls
  have hfirst : ∀ c ∈ (none : Option A2ATaskListCursor),
      c.created_at_unix_milliseconds ≤ I64_MAX := by
    rintro _ ⟨⟩
  refine ⟨?_, ?_, fun query _ hlimit => h.kept.list_tasks_with_artifacts_eq query hlimit, ?_⟩
  · intro context sizes hsize hlen
    have hall : (store_after sha config calls).listed context none
        = (visible_tasks (store_after sha config calls) context).insertionSort
          fun x y => y.list_key ≤ x.list_key := by
      simp [TaskTables.listed]
    rw [← hall]
    refine follow_fixed h hfirst hsize ?_
    rwa [hall, length_insertionSort]
  · intro context rounds hsize
    obtain ⟨pages, hpages, hfollows⟩ := follow_follows context hsha hconfig h hfirst hsize
    have hkeys : (pages.map (keyset context)).flatMap (·.keys)
        = (pages.flatMap (·.2.tasks)).map (·.list_key) := by
      rw [flatMap_map, map_flatMap]
      rfl
    have hdesc := hfollows.descending
    rw [hkeys, pairwise_map] at hdesc
    refine ⟨pages, hpages, hdesc, ?_⟩
    rintro k ⟨read, hread, hend⟩ hthere
    have hcomplete := hfollows.complete (k := k) ?_ ?_ (by rintro _ ⟨⟩)
    · rw [hkeys] at hcomplete
      exact mem_map.1 hcomplete
    · exact ⟨_, mem_map_of_mem hread, by simp [keyset, hend]⟩
    · simp only [forall_mem_map]
      intro read hread
      exact mem_map.2 (hthere read hread)
  · intro key row more hrow hthere
    obtain ⟨row', hrow', hgoes⟩ := hthere.lasts hsha hconfig h row hrow
    refine ⟨row', hrow', ?_, hgoes.identity⟩
    rw [TaskRow.list_key, TaskRow.list_key, hgoes.created, hgoes.identity]

namespace Scene

/-- The second task is created later than the first one. -/
def two_tasks : List TaskStoreCall :=
  [.create_task creation, .create_task { other_creation with created_at_unix_milliseconds := 5 }]

/-- A page of one task; the second task is completed, removed and created again as of an
earlier time; a page of two. -/
def created_again : List (List TaskStoreCall × ℕ) :=
  [([], 1), ([.append_message other_answer 6,
    .transition_task ⟨other_key, 0, .Completed, none, 6⟩,
    .prune (6 + 30 * 24 * 60 * 60 * 1000), .create_task other_creation], 2)]

end Scene

/-- A task that was removed and created again is read again. -/
theorem created_again_listed_again : (follow text_itself .default creation.identity.context_key none
      (store_after text_itself .default two_tasks) created_again).map
        (·.flatMap (·.2.tasks.map (·.key)))
    = .ok [other_key, other_key, task_key] := by
  decide +kernel

/-- Two pages of one task each are the whole list. -/
theorem two_tasks_list_soundly : ∃ pages,
    follow text_itself .default creation.identity.context_key none
      (store_after text_itself .default two_tasks) [([], 1), ([], 1), ([], 1)]
      = .ok pages ∧ ∀ read ∈ pages, read.2.total_size = 2 := by
  have h := lists_soundly text_itself_ideal
    (show A2ASqliteTaskStoreConfig.default.validate = .ok () by decide) two_tasks
  have hlen : (visible_tasks (store_after text_itself .default two_tasks)
      creation.identity.context_key).length = 2 := by
    decide +kernel
  obtain ⟨pages, hpages, -, -, htotal⟩ := h.fixed creation.identity.context_key [1, 1, 1]
    (by decide) (by rw [hlen]; decide)
  rw [hlen] at htotal
  exact ⟨pages, hpages, htotal⟩

end Konclave.A2A
