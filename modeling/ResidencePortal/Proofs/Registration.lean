import Mathlib.Data.Finset.Card
import Mathlib.Data.List.Dedup
import ResidencePortal.Config

/-!
# The registry and the log of registrations

The registry changes by registering a page, by registering the built-in pages, by starting the portal
with a configuration and by clearing. `Registry.log` only notes which pages were registered since the
registry was last cleared, and `Registry.latest` reads such a log with the last write winning: a page
counts unless a page with the same identifier was registered after it.

**Results.**
* `latest_append`: later registrations take the place of earlier ones and stand behind them.
* `perform_latest`: one operation on the reading of a log is the reading of the log with the operation
  noted.
* `map_id_latest`, `find?_latest`: the identifiers of the reading, and what a look-up finds in it.
* `registry_reads_log`: after every run of operations the registry is the reading of its log.
* `Distinct.find?_eq_some_iff`: a registered page is found by its identifier only.
-/

namespace ResidencePortal.Registry

/-! ## Identifiers -/

/-- No two pages have the same identifier. -/
def Distinct (r : Registry) : Prop := (r.pages.map Page.id).Nodup

theorem distinct_empty : empty.Distinct := List.nodup_nil

theorem Distinct.register {r : Registry} (h : r.Distinct) (page : Page) : (r.register page).Distinct := by
  have hold : ((r.pages.filter fun p => p.id ≠ page.id).map Page.id).Nodup :=
    h.sublist (List.filter_sublist.map _)
  have hnew : page.id ∉ (r.pages.filter fun p => p.id ≠ page.id).map Page.id := by simp
  simp only [Distinct, Registry.register, List.map_append, List.map_cons, List.map_nil]
  exact List.nodup_append.2 ⟨hold, by simp, fun a ha b hb => by
    rw [List.mem_singleton.1 hb]
    exact fun e => hnew (e ▸ ha)⟩

/-- However pages are registered, their identifiers stay distinct. -/
theorem Distinct.registerAll {r : Registry} (h : r.Distinct) (pages : List Page) :
    (r.registerAll pages).Distinct := by
  induction pages generalizing r with
  | nil => exact h
  | cons page rest ih => exact ih (h.register page)

theorem find?_id_of_mem {pages : List Page} (h : (pages.map Page.id).Nodup) {page : Page}
    (hpage : page ∈ pages) : pages.find? (fun p => p.id = page.id) = some page := by
  induction pages with
  | nil => cases hpage
  | cons p rest ih =>
    obtain ⟨hp, hrest⟩ := List.nodup_cons.1 h
    rcases List.mem_cons.1 hpage with rfl | hmem
    · simp
    · have hne : p.id ≠ page.id := fun e => hp (e ▸ List.mem_map_of_mem hmem)
      simp [hne, ih hrest hmem]

/-- A registered page is found by its identifier and by no other. -/
theorem Distinct.find?_eq_some_iff {r : Registry} (h : r.Distinct) {page : Page}
    (hpage : page ∈ r.pages) {id : String} : r.find? id = some page ↔ id = page.id := by
  constructor
  · intro hfind
    have hid : page.id = id := by simpa using List.find?_some hfind
    exact hid.symm
  · rintro rfl
    exact find?_id_of_mem h hpage

/-! ## Operations and their log -/

/-- What changes the registry. -/
inductive Operation where
  | register (page : Page)
  | registerStandard
  /-- The portal starts with a configuration. -/
  | prepare (config : Config)
  | clear

/-- The registry after an operation. A start with a bad configuration fails and leaves it alone. -/
def perform (r : Registry) : Operation → Registry
  | .register page => r.register page
  | .registerStandard => r.registerStandard
  | .prepare config =>
    match config.prepare r with
    | .ok prepared => prepared
    | .error _ => r
  | .clear => empty

/-- The registry after operations, from the start. -/
def after (operations : List Operation) : Registry := operations.foldl perform empty

/-- Notes the registrations of an operation. A start registers the built-in pages exactly if its
configuration is valid and nothing has been registered yet. -/
def note (log : List Page) : Operation → List Page
  | .register page => log ++ [page]
  | .registerStandard => log ++ Page.standard
  | .prepare config => if config.validate = .ok () ∧ log = [] then Page.standard else log
  | .clear => []

/-- The pages registered since the registry was last cleared, in order of time. -/
def log (operations : List Operation) : List Page := operations.foldl note []

/-- The pages of a log with the last write winning: a page counts unless one with the same identifier
comes later. -/
def latest : List Page → List Page
  | [] => []
  | page :: later => if page.id ∈ later.map Page.id then latest later else page :: latest later

/-! ## Reading a log -/

theorem latest_cons_of_mem {page : Page} {later : List Page} (h : page.id ∈ later.map Page.id) :
    latest (page :: later) = latest later := if_pos h

theorem latest_cons_of_not_mem {page : Page} {later : List Page} (h : page.id ∉ later.map Page.id) :
    latest (page :: later) = page :: latest later := if_neg h

/-- The identifiers of the reading are those of the log, each where it comes last. -/
theorem map_id_latest (log : List Page) : (latest log).map Page.id = (log.map Page.id).dedup := by
  induction log with
  | nil => rfl
  | cons page later ih =>
    rw [List.map_cons]
    by_cases h : page.id ∈ later.map Page.id
    · rw [latest_cons_of_mem h, List.dedup_cons_of_mem h, ih]
    · rw [latest_cons_of_not_mem h, List.dedup_cons_of_notMem h, List.map_cons, ih]

theorem latest_eq_nil_iff {log : List Page} : latest log = [] ↔ log = [] := by
  rw [← List.map_eq_nil_iff, map_id_latest, List.dedup_eq_nil, List.map_eq_nil_iff]

/-- **Later registrations.** Of the earlier pages those are left that are not registered again, and the
later ones stand behind them. -/
theorem latest_append (earlier later : List Page) :
    latest (earlier ++ later) =
      (latest earlier).filter (fun p => p.id ∉ later.map Page.id) ++ latest later := by
  induction earlier with
  | nil => rfl
  | cons page rest ih =>
    have hmem : page.id ∈ (rest ++ later).map Page.id ↔
        page.id ∈ rest.map Page.id ∨ page.id ∈ later.map Page.id := by
      rw [List.map_append, List.mem_append]
    rw [List.cons_append]
    by_cases hrest : page.id ∈ rest.map Page.id
    · rw [latest_cons_of_mem (hmem.2 (Or.inl hrest)), latest_cons_of_mem hrest, ih]
    · rw [latest_cons_of_not_mem hrest]
      by_cases hlater : page.id ∈ later.map Page.id
      · rw [latest_cons_of_mem (hmem.2 (Or.inr hlater)), ih,
          List.filter_cons_of_neg (by simpa using hlater)]
      · rw [latest_cons_of_not_mem (fun h => (hmem.1 h).elim hrest hlater), ih,
          List.filter_cons_of_pos (by simpa using hlater), List.cons_append]

/-- **Look-ups.** The latest registration under an identifier is found. -/
theorem find?_latest (log : List Page) (id : String) :
    (latest log).find? (fun p => p.id = id) = log.reverse.find? fun p => p.id = id := by
  induction log with
  | nil => rfl
  | cons page later ih =>
    rw [List.reverse_cons, List.find?_append]
    by_cases h : page.id ∈ later.map Page.id
    · rw [latest_cons_of_mem h, ih]
      by_cases hid : page.id = id
      · -- A later page has the identifier, so it is found first and the earlier one does not count.
        obtain ⟨q, hq, hqid⟩ := List.mem_map.1 h
        have hfound : (later.reverse.find? fun p => p.id = id).isSome = true := by
          rw [List.find?_isSome]
          exact ⟨q, List.mem_reverse.2 hq, by simp [hqid, hid]⟩
        rw [Option.or_of_isSome hfound]
      · simp [hid]
    · rw [latest_cons_of_not_mem h]
      by_cases hid : page.id = id
      · have hnone : (later.reverse.find? fun p => p.id = id) = none := by
          rw [List.find?_eq_none]
          intro q hq hqid
          have hqid : q.id = id := by simpa using hqid
          exact h (List.mem_map.2 ⟨q, List.mem_reverse.1 hq, hqid.trans hid.symm⟩)
        simp [hid, hnone]
      · simp [hid, ih]

/-! ## Steps and runs -/

/-- Registering a page is noting it. -/
theorem register_latest (log : List Page) (page : Page) :
    (⟨latest log⟩ : Registry).register page = ⟨latest (log ++ [page])⟩ := by
  rw [latest_append]
  simp [register, latest]

theorem registerAll_latest (log pages : List Page) :
    (⟨latest log⟩ : Registry).registerAll pages = ⟨latest (log ++ pages)⟩ := by
  induction pages generalizing log with
  | nil => rw [List.append_nil]; rfl
  | cons page rest ih =>
    have hrest := ih (log ++ [page])
    rw [List.append_assoc] at hrest
    rw [registerAll, List.foldl_cons, register_latest]
    exact hrest

/-- What a start of the portal does to the registry. -/
theorem perform_prepare (r : Registry) (config : Config) :
    r.perform (.prepare config) =
      if config.validate = .ok () ∧ r.pages = [] then r.registerStandard else r := by
  unfold perform Config.prepare
  cases hvalid : config.validate with
  | error problem => simp [hvalid, bind, Except.bind]
  | ok u => cases hpages : r.pages <;> simp [hvalid, bind, Except.bind, pure, Except.pure]

/-- **Step.** An operation on the reading of a log gives the reading of the log with the operation
noted. -/
theorem perform_latest (log : List Page) (operation : Operation) :
    (⟨latest log⟩ : Registry).perform operation = ⟨latest (note log operation)⟩ := by
  cases operation with
  | register page => exact register_latest log page
  | registerStandard => exact registerAll_latest log Page.standard
  | prepare config =>
    rw [perform_prepare, note]
    simp only [latest_eq_nil_iff]
    split
    · rename_i h
      rw [h.2]
      exact registerAll_latest [] Page.standard
    · rfl
  | clear => rfl

/-- **Run.** After operations the registry is the reading of their log. -/
theorem after_eq_latest (operations : List Operation) :
    after operations = ⟨latest (log operations)⟩ := by
  have hrun : ∀ (operations : List Operation) (log : List Page),
      operations.foldl perform ⟨latest log⟩ = ⟨latest (operations.foldl note log)⟩ := by
    intro operations
    induction operations with
    | nil => intro log; rfl
    | cons operation rest ih =>
      intro log
      rw [List.foldl_cons, List.foldl_cons, perform_latest, ih]
  exact hrun operations []

/-- Registering the same pages a second time changes nothing. -/
theorem registerAll_registerAll_latest (log pages : List Page) :
    ((⟨latest log⟩ : Registry).registerAll pages).registerAll pages =
      (⟨latest log⟩ : Registry).registerAll pages := by
  have hagain : (latest pages).filter (fun p => p.id ∉ pages.map Page.id) = [] := by
    rw [List.filter_eq_nil_iff]
    intro p hp
    have hid : p.id ∈ (latest pages).map Page.id := List.mem_map_of_mem hp
    rw [map_id_latest, List.mem_dedup] at hid
    simpa using hid
  rw [registerAll_latest, registerAll_latest, latest_append (log ++ pages), latest_append log,
    List.filter_append, hagain, List.append_nil, List.filter_filter]
  simp only [Bool.and_self]

/-- **The registry is its log, the last write winning.** After any operations the pages are the reading
of what was registered since the last clearing: each identifier once, with its latest page, in the order
of these latest registrations. It is empty just when nothing was registered since then, which is when a
start with a valid configuration registers the built-in pages. So identifiers are distinct, as many as
there are pages, a look-up finds the latest page under an identifier, and registering the built-in pages
twice is registering them once. -/
theorem registry_reads_log (operations : List Operation) :
    (after operations).pages = latest (log operations) ∧
    ((after operations).pages = [] ↔ log operations = []) ∧
    (after operations).Distinct ∧
    (after operations).count = ((log operations).map Page.id).toFinset.card ∧
    (∀ id, (after operations).find? id = (log operations).reverse.find? fun p => p.id = id) ∧
    (after operations).registerStandard.registerStandard = (after operations).registerStandard := by
  have hids := map_id_latest (log operations)
  rw [after_eq_latest]
  refine ⟨rfl, latest_eq_nil_iff, ?_, ?_, find?_latest (log operations),
    registerAll_registerAll_latest (log operations) Page.standard⟩
  · rw [Distinct, hids]
    exact List.nodup_dedup _
  · calc (latest (log operations)).length
        = ((latest (log operations)).map Page.id).length := (List.length_map _).symm
      _ = ((log operations).map Page.id).dedup.length := by rw [hids]
      _ = ((log operations).map Page.id).toFinset.card := (List.card_toFinset _).symm

end ResidencePortal.Registry
