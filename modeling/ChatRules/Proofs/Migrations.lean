import ChatRules.Store.Schema
import Mathlib.Data.List.Basic

namespace ChatRules

def Statement.batch? (statements : List Statement) (rules : Option Relation) :
    Option (Option Relation) :=
  statements.foldlM (fun rules (statement : Statement) => statement rules) rules

namespace Migration

def outcome? (m : Migration) (c : Contents) : Option Contents :=
  (Statement.batch? m.statements c.rules).map fun rules =>
    ⟨some (c.versions.getD [] ++ [(m.version : Int)]), rules⟩

end Migration

namespace Contents

def recorded (c : Contents) : List Int :=
  c.versions.getD []

def after? (c : Contents) (migrations : List Migration) : Option Contents :=
  migrations.foldlM (fun c m => m.outcome? c) c

theorem versions_of_outcome {m : Migration} {c c' : Contents} (h : m.outcome? c = some c') :
    c'.versions = some (c.recorded ++ [(m.version : Int)]) := by
  obtain ⟨rules, -, rfl⟩ := Option.map_eq_some_iff.mp h
  rfl

theorem recorded_of_outcome {m : Migration} {c c' : Contents} (h : m.outcome? c = some c') :
    c'.recorded = c.recorded ++ [(m.version : Int)] := by
  rw [recorded, versions_of_outcome h, Option.getD_some]

theorem after?_cons {m : Migration} {rest : List Migration} {c c' : Contents}
    (h : m.outcome? c = some c') : c.after? (m :: rest) = c'.after? rest := by
  rw [after?, List.foldlM_cons, h]
  rfl

theorem versions_of_after? {migrations : List Migration} {c c' : Contents} {vs : List Int}
    (hv : c.versions = some vs) (h : c.after? migrations = some c') :
    c'.versions = some (vs ++ migrations.map fun m => (m.version : Int)) := by
  induction migrations generalizing c vs with
  | nil =>
    cases h
    rw [List.map_nil, List.append_nil, hv]
  | cons m rest ih =>
    cases ho : m.outcome? c with
    | none =>
      rw [after?, List.foldlM_cons, ho] at h
      cases h
    | some next =>
      have hnext : next.versions = some (vs ++ [(m.version : Int)]) := by
        rw [versions_of_outcome ho, recorded, hv, Option.getD_some]
      rw [after?_cons ho] at h
      rw [ih hnext h, List.append_assoc]
      rfl

end Contents

namespace Database
variable {m : Migration} {d : Database}

theorem latest_eq_max? (vs : List Int) : latest vs = vs.max?.getD 0 := by
  cases vs <;> rfl

theorem latest_le_iff {n : Int} (hn : 0 ≤ n) {vs : List Int} :
    latest vs ≤ n ↔ ∀ v ∈ vs, v ≤ n := by
  rw [latest_eq_max?]
  cases hmax : vs.max? with
  | none => simpa [List.max?_eq_none_iff.mp hmax] using hn
  | some last => exact List.max?_le_iff hmax

theorem latest_lt_iff {n : Int} (hn : 0 < n) {vs : List Int} :
    latest vs < n ↔ ∀ v ∈ vs, v < n := by
  have h : latest vs ≤ n - 1 ↔ ∀ v ∈ vs, v ≤ n - 1 := latest_le_iff (by omega)
  simpa only [Int.le_sub_one_iff] using h

theorem latest_nonneg {vs : List Int} (h : ∀ v ∈ vs, 0 ≤ v) : 0 ≤ latest vs := by
  rw [latest_eq_max?]
  cases hmax : vs.max? with
  | none => exact Int.le_refl 0
  | some last => exact h last (List.max?_mem hmax)

theorem le_latest {vs : List Int} (h : ∀ v ∈ vs, 0 ≤ v) : ∀ v ∈ vs, v ≤ latest vs :=
  (latest_le_iff (latest_nonneg h)).mp (Int.le_refl _)

theorem execute_of_some {statements : List Statement} {rules : Option Relation}
    (h : Statement.batch? statements d.rules = some rules) :
    d.execute statements = (true, { d with rules := rules }) := by
  induction statements generalizing d with
  | nil =>
    cases h
    rfl
  | cons statement rest ih =>
    rw [Statement.batch?, List.foldlM_cons] at h
    rw [execute]
    cases hs : statement d.rules with
    | none =>
      rw [hs] at h
      cases h
    | some next =>
      rw [hs] at h
      exact ih (d := { d with rules := next }) h

theorem execute_of_none {statements : List Statement}
    (h : Statement.batch? statements d.rules = none) :
    ∃ rules, d.execute statements = (false, { d with rules := rules }) := by
  induction statements generalizing d with
  | nil => cases h
  | cons statement rest ih =>
    rw [Statement.batch?, List.foldlM_cons] at h
    rw [execute]
    cases hs : statement d.rules with
    | none => exact ⟨d.rules, rfl⟩
    | some next =>
      rw [hs] at h
      exact ih (d := { d with rules := next }) h

theorem apply_of_inTransaction (h : d.inTransaction = true) (m : Migration) :
    d.apply m = (.error ⟨m.version, .beginTransaction⟩, d) := by
  rw [apply, begin?, if_pos h]

theorem apply_of_no_outcome (h : d.inTransaction = false) (ho : m.outcome? d.toContents = none) :
    d.apply m = (.error ⟨m.version, .execution⟩, ⟨d.toContents, false, d.toContents⟩) := by
  obtain ⟨rules, he⟩ := execute_of_none
    (d := { d with inTransaction := true, begunOn := d.toContents }) (Option.map_eq_none_iff.mp ho)
  rw [apply, begin?, if_neg (Bool.not_eq_true _ ▸ h)]
  simp only [carryOut, he]
  rfl

theorem apply_of_outcome {c : Contents} {vs : List Int} (h : d.inTransaction = false)
    (hv : d.versions = some vs) (hn : (m.version : Int) ∉ vs)
    (ho : m.outcome? d.toContents = some c) :
    d.apply m = (.ok (), ⟨c, false, d.toContents⟩) := by
  obtain ⟨rules, hr, rfl⟩ := Option.map_eq_some_iff.mp ho
  have he := execute_of_some
    (d := { d with inTransaction := true, begunOn := d.toContents }) hr
  have hc : vs.contains (m.version : Int) = false := by simpa using hn
  rw [apply, begin?, if_neg (Bool.not_eq_true _ ▸ h)]
  simp only [carryOut, he, record?, hv, hc]
  rfl

def Applies (d : Database) (m : Migration) : Prop :=
  d.inTransaction = false ∧ (m.outcome? d.toContents).isSome = true

/-- The end of a run, by what it left: nothing, or a migration that cannot be applied and leaves the
database as it is, however often it is tried. -/
inductive Stopped (d : Database) : List Migration → Except MigrationFault Unit → Prop
  | finished : Stopped d [] (.ok ())
  | failed {m : Migration} {later : List Migration} {stage : MigrationStage} (hn : ¬ d.Applies m)
    (ha : d.apply m = (.error ⟨m.version, stage⟩, d)) :
    Stopped d (m :: later) (.error ⟨m.version, stage⟩)

theorem Stopped.applyAll_eq {rest : List Migration} {result : Except MigrationFault Unit}
    (h : d.Stopped rest result) : d.applyAll rest = (result, d) := by
  cases h with
  | finished => rfl
  | failed hn ha => rw [applyAll, ha]

theorem stopped_of_inTransaction (h : d.inTransaction = true) (m : Migration)
    (later : List Migration) :
    d.Stopped (m :: later) (.error ⟨m.version, .beginTransaction⟩) := by
  refine .failed (fun ha => ?_) (apply_of_inTransaction h m)
  rw [ha.1] at h
  cases h

theorem stopped_of_no_outcome {c : Contents} (ho : m.outcome? c = none) (later : List Migration) :
    Stopped ⟨c, false, c⟩ (m :: later) (.error ⟨m.version, .execution⟩) := by
  refine .failed (fun ha => ?_) (apply_of_no_outcome rfl ho)
  have hs : (m.outcome? c).isSome = true := ha.2
  rw [ho] at hs
  cases hs

theorem lt_of_outcome {rest : List Migration} {c c' : Contents}
    (hp : (m :: rest).Pairwise (·.version < ·.version))
    (hn : ∀ m' ∈ m :: rest, ∀ v ∈ c.recorded, v < m'.version) (ho : m.outcome? c = some c') :
    ∀ m' ∈ rest, ∀ v ∈ c'.recorded, v < m'.version := by
  intro m' hm' v hv
  rw [Contents.recorded_of_outcome ho, List.mem_append, List.mem_singleton] at hv
  rcases hv with hv | rfl
  · exact hn m' (List.mem_cons_of_mem m hm') v hv
  · exact Int.ofNat_lt.mpr (List.rel_of_pairwise_cons hp hm')

theorem applyAll_stops {pending : List Migration} (hp : pending.Pairwise (·.version < ·.version))
    (hv : d.versions.isSome = true) (hn : ∀ m ∈ pending, ∀ v ∈ d.recorded, v < m.version) :
    ∃ result d' applied rest, d.applyAll pending = (result, d') ∧ pending = applied ++ rest ∧
      d.after? applied = some d'.toContents ∧ d'.inTransaction = d.inTransaction ∧
      (d.inTransaction = true → applied = [] ∧ d' = d) ∧ d'.Stopped rest result := by
  induction pending generalizing d with
  | nil => exact ⟨_, _, [], [], rfl, rfl, rfl, rfl, fun _ => ⟨rfl, rfl⟩, .finished⟩
  | cons m rest ih =>
    cases ht : d.inTransaction with
    | true =>
      -- Transactions do not nest, so the very first migration stops the run.
      have hs := stopped_of_inTransaction ht m rest
      exact ⟨_, _, [], m :: rest, hs.applyAll_eq, rfl, rfl, ht, fun _ => ⟨rfl, rfl⟩, hs⟩
    | false =>
      cases ho : m.outcome? d.toContents with
      | none =>
        have ha : d.applyAll (m :: rest) =
            (.error ⟨m.version, .execution⟩, ⟨d.toContents, false, d.toContents⟩) := by
          rw [applyAll, apply_of_no_outcome ht ho]
        exact ⟨_, _, [], m :: rest, ha, rfl, rfl, rfl, nofun, stopped_of_no_outcome ho rest⟩
      | some c =>
        obtain ⟨vs, hvs⟩ := Option.isSome_iff_exists.mp hv
        have hr : d.recorded = vs := by rw [Contents.recorded, hvs, Option.getD_some]
        have hnew : (m.version : Int) ∉ vs := fun hm =>
          Int.lt_irrefl _ (hn m List.mem_cons_self _ (hr ▸ hm))
        have hsome : c.versions.isSome = true := by
          rw [Contents.versions_of_outcome ho, Option.isSome_some]
        obtain ⟨result, d', applied, rest', ha, hparts, hc, hin, -, hs⟩ :=
          ih (d := ⟨c, false, d.toContents⟩) hp.of_cons hsome (lt_of_outcome hp hn ho)
        refine ⟨result, d', m :: applied, rest', ?_, ?_, ?_, hin, nofun, hs⟩
        · rw [applyAll, apply_of_outcome ht hvs hnew ho]
          exact ha
        · rw [hparts, List.cons_append]
        · rw [Contents.after?_cons ho]
          exact hc

theorem ensureVersions_eq (h : d.versions.isSome = true) : d.ensureVersions = d := by
  obtain ⟨vs, hv⟩ := Option.isSome_iff_exists.mp h
  obtain ⟨⟨versions, rules⟩, inTransaction, begunOn⟩ := d
  obtain rfl : versions = some vs := hv
  rfl

def Readable (d : Database) : Prop :=
  ∀ v ∈ d.recorded, 0 ≤ v ∧ v < 0x100000000

theorem Readable.nonneg (h : d.Readable) : ∀ v ∈ d.recorded, 0 ≤ v :=
  fun v hv => (h v hv).1

theorem Readable.latest_nonneg (h : d.Readable) : 0 ≤ latest d.recorded :=
  Database.latest_nonneg h.nonneg

def pending (migrations : List Migration) (d : Database) : List Migration :=
  migrations.filter fun m => latest d.recorded < m.version

theorem migrateBy_eq (h : d.Readable) (migrations : List Migration) :
    d.migrateBy migrations = d.ensureVersions.applyAll (d.pending migrations) := by
  have h0 := h.latest_nonneg
  have h32 : latest d.recorded < 0x100000000 :=
    (latest_lt_iff (by decide)).mpr fun v hv => (h v hv).2
  have hv : d.ensureVersions.version = .ok (latest d.recorded).toNat := by
    have hvs : d.ensureVersions.versions = some d.recorded := rfl
    rw [version, hvs]
    exact if_pos ⟨h0, h32⟩
  have hp : (migrations.filter fun m => (latest d.recorded).toNat < m.version) =
      d.pending migrations := by
    refine List.filter_congr fun m _ => decide_eq_decide.mpr ?_
    omega
  rw [migrateBy, hv]
  exact congrArg (applyAll · d.ensureVersions) hp

theorem mem_pending_iff {migrations : List Migration} (h : d.Readable) :
    m ∈ d.pending migrations ↔
      m ∈ migrations ∧ 0 < m.version ∧ ∀ v ∈ d.recorded, v < m.version := by
  have h0 := h.latest_nonneg
  rw [pending, List.mem_filter, decide_eq_true_eq]
  refine and_congr_right fun _ => ⟨fun hl => ?_, fun ⟨hpos, hold⟩ => ?_⟩
  · have hpos : (0 : Int) < m.version := by omega
    exact ⟨by omega, (latest_lt_iff hpos).mp hl⟩
  · exact (latest_lt_iff (Int.ofNat_lt.mpr hpos)).mpr hold

theorem lt_of_mem_pending {migrations : List Migration} (h : d.Readable)
    (hm : m ∈ d.pending migrations) : 0 < m.version ∧ ∀ v ∈ d.recorded, v < m.version :=
  ((mem_pending_iff h).mp hm).2

section ByHand
variable {v : Int} {migrations : List Migration}

theorem mem_recorded_mark_iff {w : Int} : w ∈ (d.mark v).recorded ↔ w ∈ d.recorded ∨ w = v := by
  change w ∈ (if d.recorded.contains v then d.recorded else d.recorded ++ [v]) ↔ _
  split
  · next hv =>
    refine ⟨.inl, fun h => h.elim id ?_⟩
    rintro rfl
    exact List.contains_iff_mem.mp hv
  · rw [List.mem_append, List.mem_singleton]

theorem mem_recorded_unmark_iff {w : Int} :
    w ∈ (d.unmark v).recorded ↔ w ∈ d.recorded ∧ w ≠ v := by
  change w ∈ d.recorded.filter (· ≠ v) ↔ _
  rw [List.mem_filter, decide_eq_true_eq]

theorem mem_pending_mark_iff (h : d.Readable) (hv : 0 ≤ v ∧ v < 0x100000000) :
    m ∈ (d.mark v).pending migrations ↔ m ∈ d.pending migrations ∧ v < m.version := by
  have hmark : (d.mark v).Readable := fun w hw =>
    (mem_recorded_mark_iff.mp hw).elim (h w) fun he => he ▸ hv
  simp only [mem_pending_iff hmark, mem_pending_iff h, mem_recorded_mark_iff, or_imp,
    forall_and, forall_eq, and_assoc]

/-- A migration whose record is taken away is pending again only where no later one is recorded. -/
theorem mem_pending_unmark_iff (h : d.Readable) :
    m ∈ (d.unmark v).pending migrations ↔
      m ∈ migrations ∧ 0 < m.version ∧ ∀ w ∈ d.recorded, w ≠ v → w < m.version := by
  have hunmark : (d.unmark v).Readable := fun w hw => h w (mem_recorded_unmark_iff.mp hw).1
  simp only [mem_pending_iff hunmark, mem_recorded_unmark_iff, and_imp]

end ByHand

theorem pending_of_applied {migrations applied rest : List Migration} {d' : Database}
    (hm : migrations.Pairwise (·.version < ·.version)) (hd : d.Readable) (hd' : d'.Readable)
    (hp : d.pending migrations = applied ++ rest)
    (hr : d'.recorded = d.recorded ++ applied.map fun m => (m.version : Int)) :
    d'.pending migrations = rest := by
  have hle := le_latest hd'.nonneg
  have hmono : latest d.recorded ≤ latest d'.recorded := by
    refine (latest_le_iff hd'.latest_nonneg).mpr fun v hv => ?_
    exact hle v (hr ▸ List.mem_append_left _ hv)
  have htwice : d'.pending migrations =
      (d.pending migrations).filter fun m => latest d'.recorded < m.version := by
    rw [pending, pending, List.filter_filter]
    refine List.filter_congr fun m _ => ?_
    rw [← Bool.decide_and]
    exact decide_eq_decide.mpr ⟨fun h => ⟨h, by omega⟩, fun h => h.1⟩
  have hsorted : (applied ++ rest).Pairwise (·.version < ·.version) := hp ▸ hm.filter _
  have hdone : (applied.filter fun m => latest d'.recorded < m.version) = [] := by
    refine List.filter_eq_nil_iff.mpr fun m hm => ?_
    have hv := hle m.version (hr ▸ List.mem_append_right _ (List.mem_map_of_mem hm))
    simpa using hv
  have hleft : (rest.filter fun m => latest d'.recorded < m.version) = rest := by
    refine List.filter_eq_self.mpr fun m hm => decide_eq_true ?_
    obtain ⟨hpos, hold⟩ := lt_of_mem_pending hd (hp ▸ List.mem_append_right applied hm)
    refine (latest_lt_iff (Int.ofNat_lt.mpr hpos)).mpr fun v hv => ?_
    rw [hr, List.mem_append, List.mem_map] at hv
    rcases hv with hv | ⟨m', hm', rfl⟩
    · exact hold v hv
    · exact Int.ofNat_lt.mpr ((List.pairwise_append.mp hsorted).2.2 m' hm' m hm)
  rw [htwice, hp, List.filter_append, hdone, hleft, List.nil_append]

theorem filter_lt_of_sorted {applied later : List Migration}
    (h : (applied ++ m :: later).Pairwise (·.version < ·.version)) :
    ((applied ++ m :: later).filter (·.version < m.version)) = applied := by
  obtain ⟨-, hlater, hcross⟩ := List.pairwise_append.mp h
  have hkeep : applied.filter (·.version < m.version) = applied :=
    List.filter_eq_self.mpr fun a ha => decide_eq_true (hcross a ha m List.mem_cons_self)
  have hdrop : (m :: later).filter (·.version < m.version) = [] := by
    refine List.filter_eq_nil_iff.mpr fun x hx hlt => ?_
    have hlt : x.version < m.version := of_decide_eq_true hlt
    rcases List.mem_cons.mp hx with rfl | hx
    · exact Nat.lt_irrefl _ hlt
    · exact Nat.lt_asymm hlt (List.rel_of_pairwise_cons hlater hx)
  rw [List.filter_append, hkeep, hdrop, List.append_nil]

/-- The pending migrations are applied whole, in ascending order, and recorded, up to the first that
cannot be; of that one nothing is left, and its version is told. An outer transaction stays open on
what it began on. One more run ends as this one did and changes nothing. -/
theorem migrations_whole_or_undone {migrations : List Migration}
    (hm : migrations.Pairwise (·.version < ·.version))
    (hf : ∀ m ∈ migrations, m.version < 0x100000000) {d : Database} (hd : d.Readable) :
    ∃ result d' applied rest, d.migrateBy migrations = (result, d') ∧
      d.pending migrations = applied ++ rest ∧
      d.ensureVersions.after? applied = some d'.toContents ∧
      d'.versions = some (d.recorded ++ applied.map fun m => (m.version : Int)) ∧
      d'.inTransaction = d.inTransaction ∧
      (d.inTransaction = true → applied = [] ∧ d'.begunOn = d.begunOn) ∧
      (rest = [] ∧ result = .ok () ∨
        ∃ m later stage, rest = m :: later ∧ ¬ d'.Applies m ∧
          applied = (d.pending migrations).filter (·.version < m.version) ∧
          result = .error ⟨m.version, stage⟩) ∧
      d'.migrateBy migrations = (result, d') := by
  have hold : ∀ m ∈ d.pending migrations, ∀ v ∈ d.recorded, v < m.version :=
    fun m hm => (lt_of_mem_pending hd hm).2
  have hsorted : (d.pending migrations).Pairwise (·.version < ·.version) := hm.filter _
  obtain ⟨result, d', applied, rest, ha, hparts, hc, hin, hout, hs⟩ :=
    applyAll_stops (d := d.ensureVersions) hsorted rfl hold
  have hversions : d'.versions = some (d.recorded ++ applied.map fun m => (m.version : Int)) :=
    Contents.versions_of_after? rfl hc
  have hrec : d'.recorded = d.recorded ++ applied.map fun m => (m.version : Int) := by
    rw [Contents.recorded, hversions, Option.getD_some]
  have hd' : d'.Readable := by
    intro v hv
    rw [hrec, List.mem_append, List.mem_map] at hv
    rcases hv with hv | ⟨m, hm', rfl⟩
    · exact hd v hv
    · have hmem : m ∈ d.pending migrations := hparts ▸ List.mem_append_left rest hm'
      have hlt := hf m (List.mem_filter.mp hmem).1
      omega
  refine ⟨result, d', applied, rest, ?_, hparts, hc, hversions, hin, ?_, ?_, ?_⟩
  · rw [migrateBy_eq hd, ha]
  · intro ht
    obtain ⟨happlied, rfl⟩ := hout ht
    exact ⟨happlied, rfl⟩
  · cases hs with
    | finished => exact .inl ⟨rfl, rfl⟩
    | @failed m later stage hn _ =>
      refine .inr ⟨m, later, stage, rfl, hn, ?_, rfl⟩
      rw [hparts] at hsorted ⊢
      exact (filter_lt_of_sorted hsorted).symm
  · have hsome : d'.versions.isSome = true := by rw [hversions, Option.isSome_some]
    rw [migrateBy_eq hd', ensureVersions_eq hsome, pending_of_applied hm hd hd' hparts hrec,
      hs.applyAll_eq]

theorem ascending_all : Migration.all.Pairwise (·.version < ·.version) :=
  .cons (by simp) (List.pairwise_singleton _ _)

theorem version_lt_all : ∀ m ∈ Migration.all, m.version < 0x100000000 := by
  simp [Migration.all]

def narrow : Database :=
  ⟨⟨some [1], some ⟨["seq", "id", "Created_At"], [[.int 1, .text "r1", .int 5]], []⟩⟩, false,
    ⟨none, none⟩⟩

theorem readable_narrow : narrow.Readable := by
  intro v hv
  obtain rfl : v = 1 := List.mem_singleton.mp hv
  decide

theorem half_done_migration_undone :
    Migration.all.Pairwise (·.version < ·.version) ∧
      (∀ m ∈ Migration.all, m.version < 0x100000000) ∧ narrow.Readable ∧
      ∃ d', narrow.migrate = (.error ⟨2, .execution⟩, d') ∧
        d'.toContents = narrow.toContents ∧ d'.inTransaction = false ∧
        d'.migrate = (.error ⟨2, .execution⟩, d') := by
  have hfault : narrow.migrate.1 = .error ⟨2, .execution⟩ := by decide +kernel
  refine ⟨ascending_all, version_lt_all, readable_narrow, ?_⟩
  obtain ⟨result, d', applied, rest, hrun, -, hc, -, hin, -, hend, htwice⟩ :=
    migrations_whole_or_undone ascending_all version_lt_all readable_narrow
  rw [migrate, hrun] at hfault
  obtain rfl : result = .error ⟨2, .execution⟩ := hfault
  have hnone : applied = [] := by
    rcases hend with ⟨-, hok⟩ | ⟨m, later, stage, -, -, happlied, hm⟩
    · cases hok
    · have hv : 2 = m.version := congrArg MigrationFault.version (Except.error.inj hm)
      rw [happlied, ← hv]
      refine List.filter_eq_nil_iff.mpr fun x hx => ?_
      have hone : (1 : Int) < x.version := (lt_of_mem_pending readable_narrow hx).2 1 (.head _)
      simp only [decide_eq_true_eq]
      omega
  subst hnone
  exact ⟨d', hrun, (Option.some.inj hc).symm, hin, htwice⟩

end Database

end ChatRules
