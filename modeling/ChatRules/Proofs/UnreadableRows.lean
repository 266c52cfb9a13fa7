import ChatRules.Proofs.Effect

namespace ChatRules
open Text

namespace Row

inductive Part
  | time
  | trigger
  | actions
  deriving DecidableEq, Repr

def Reads (row : Row) : Part → Prop
  | .time =>
    Instant.firstSecond ≤ row.createdAt / 1000 ∧ row.createdAt / 1000 ≤ Instant.lastSecond
  | .trigger => row.trigger?.isSome = true
  | .actions => row.actions?.isSome = true

instance (row : Row) : DecidablePred row.Reads
  | .time => inferInstanceAs (Decidable (_ ∧ _))
  | .trigger => inferInstanceAs (Decidable (_ = true))
  | .actions => inferInstanceAs (Decidable (_ = true))

def IsReadable (row : Row) : Prop :=
  ∀ part, row.Reads part

instance (row : Row) : Decidable row.IsReadable :=
  decidable_of_iff (row.Reads .time ∧ row.Reads .trigger ∧ row.Reads .actions)
    ⟨fun ⟨ht, hg, ha⟩ part => by cases part <;> assumption,
      fun h => ⟨h .time, h .trigger, h .actions⟩⟩

/-- The first part that does not read. -/
inductive BreaksAt (row : Row) : Part → Prop
  | time : ¬ row.Reads .time → BreaksAt row .time
  | trigger : row.Reads .time → ¬ row.Reads .trigger → BreaksAt row .trigger
  | actions : row.Reads .time → row.Reads .trigger → ¬ row.Reads .actions → BreaksAt row .actions

def Part.fault (row : Row) : Part → TableFault
  | .time => .badTime row.id row.createdAt
  | .trigger => @TableFault.undecodable .trigger
  | .actions => @TableFault.undecodable .actions

structure ReadsAs (row : Row) (r : Rule) : Prop where
  time : Instant.ofMillis? row.createdAt = some r.createdAt
  trigger : row.trigger? = some r.trigger
  actions : row.actions? = some r.actions
  same : (row.id, row.name, row.createdBy, row.enabled) = (r.id, r.name, r.createdBy, r.enabled)

variable {row : Row} {r : Rule} {fault : TableFault}

theorem rule_eq_ok_iff_readsAs : row.rule = .ok r ↔ row.ReadsAs r := by
  rw [rule_eq_ok_iff]
  exact ⟨fun ⟨ht, hg, ha, hs⟩ => ⟨ht, hg, ha, hs⟩,
    fun ⟨ht, hg, ha, hs⟩ => ⟨ht, hg, ha, hs⟩⟩

theorem BreaksAt.not_isReadable {part : Part} (h : row.BreaksAt part) : ¬ row.IsReadable := by
  intro hr
  cases h with
  | time hn => exact hn (hr .time)
  | trigger _ hn => exact hn (hr .trigger)
  | actions _ _ hn => exact hn (hr .actions)

theorem rule_cases (row : Row) :
    (row.IsReadable ∧ ∃ r, row.rule = .ok r) ∨
      ∃ part, row.BreaksAt part ∧ row.rule = .error (part.fault row) := by
  have htime : row.Reads .time ↔ (Instant.ofMillis? row.createdAt).isSome = true :=
    (Instant.ofMillis_isSome_iff row.createdAt).symm
  rw [rule]
  cases ht : Instant.ofMillis? row.createdAt with
  | none =>
    have hn : ¬ row.Reads .time := by simp [htime, ht]
    exact .inr ⟨.time, .time hn, rfl⟩
  | some time =>
    have hr : row.Reads .time := by simp [htime, ht]
    cases hg : row.trigger? with
    | none => exact .inr ⟨.trigger, .trigger hr (by simp [Reads, hg]), rfl⟩
    | some trigger =>
      have hgr : row.Reads .trigger := by simp [Reads, hg]
      cases ha : row.actions? with
      | none => exact .inr ⟨.actions, .actions hr hgr (by simp [Reads, ha]), rfl⟩
      | some actions =>
        have har : row.Reads .actions := by simp [Reads, ha]
        refine .inl ⟨fun part => ?_, _, rfl⟩
        cases part <;> assumption

theorem isReadable_iff : row.IsReadable ↔ ∃ r, row.rule = .ok r := by
  rcases rule_cases row with ⟨hr, r, h⟩ | ⟨part, hb, h⟩
  · exact iff_of_true hr ⟨r, h⟩
  · exact iff_of_false hb.not_isReadable fun ⟨r, hr⟩ => nomatch h.symm.trans hr

theorem rule_eq_error_iff :
    row.rule = .error fault ↔ ∃ part, row.BreaksAt part ∧ fault = part.fault row := by
  constructor
  · intro h
    rcases rule_cases row with ⟨-, r, hr⟩ | ⟨part, hb, he⟩
    · cases h.symm.trans hr
    · exact ⟨part, hb, Except.error.inj (h.symm.trans he)⟩
  · rintro ⟨part, hb, rfl⟩
    rcases rule_cases row with ⟨hr, -⟩ | ⟨first, hf, he⟩
    · exact absurd hr hb.not_isReadable
    · have hsame : first = part := by cases hf <;> cases hb <;> first | rfl | contradiction
      rw [he, hsame]

end Row

namespace Table
variable {t before after : Table} {row : Row} {rules : List Rule} {fault : TableFault}

theorem list_eq_ok_iff :
    t.list = .ok rules ↔ List.Forall₂ (fun row rule => row.rule = .ok rule) t rules :=
  mapM_eq_ok_iff

theorem exists_list_iff : (∃ rules, t.list = .ok rules) ↔ ∀ row ∈ t, row.IsReadable := by
  rw [list, exists_mapM_iff]
  exact forall₂_congr fun row _ => Row.isReadable_iff.symm

theorem list_eq_error_iff :
    t.list = .error fault ↔ ∃ before row after, t = before ++ row :: after ∧
      (∀ r ∈ before, r.IsReadable) ∧ row.rule = .error fault := by
  simp only [list, mapM_eq_error_iff, Row.isReadable_iff]

section OneRow

theorem ids_ne (hn : ((before ++ row :: after).map Row.id).Nodup) :
    (∀ r ∈ before, r.id ≠ row.id) ∧ ∀ r ∈ after, r.id ≠ row.id := by
  rw [List.map_append, List.map_cons, List.nodup_middle, List.nodup_cons, List.mem_append] at hn
  obtain ⟨hb, ha⟩ := not_or.mp hn.1
  exact ⟨fun r hr he => hb (he ▸ List.mem_map_of_mem hr),
    fun r hr he => ha (he ▸ List.mem_map_of_mem hr)⟩

theorem has_middle (before after : Table) (row : Row) :
    Table.has row.id (before ++ row :: after) = true := by
  rw [has, List.any_eq_true]
  exact ⟨row, by simp, beq_self_eq_true row.id⟩

variable (hn : ((before ++ row :: after).map Row.id).Nodup)
include hn

theorem get_middle : Table.get row.id (before ++ row :: after) = row.rule.map some := by
  have hb : before.find? (·.id == row.id) = none :=
    List.find?_eq_none.mpr fun r hr => by simpa using (ids_ne hn).1 r hr
  have hr : (row :: after).find? (·.id == row.id) = some row := by simp
  rw [get, List.find?_append, hb, Option.none_or, hr]

theorem delete_middle : Table.delete row.id (before ++ row :: after) = .ok (before ++ after) := by
  obtain ⟨hb, ha⟩ := ids_ne hn
  have hbefore : before.filter (·.id != row.id) = before :=
    List.filter_eq_self.mpr fun r hr => bne_iff_ne.mpr (hb r hr)
  have hafter : after.filter (·.id != row.id) = after :=
    List.filter_eq_self.mpr fun r hr => bne_iff_ne.mpr (ha r hr)
  rw [delete, if_pos (has_middle before after row), List.filter_append,
    List.filter_cons_of_neg (by simp), hbefore, hafter]

theorem setEnabled_middle (enabled : Bool) :
    Table.setEnabled row.id enabled (before ++ row :: after) =
      .ok (before ++ { row with enabled := enabled } :: after) := by
  obtain ⟨hb, ha⟩ := ids_ne hn
  have hsame (rows : Table) (h : ∀ r ∈ rows, r.id ≠ row.id) :
      rows.change row.id (fun r => { r with enabled := enabled }) = rows :=
    (List.map_congr_left fun r hr => if_neg (h r hr)).trans (List.map_id' rows)
  have hchange : Table.change row.id (fun r => { r with enabled := enabled })
      (before ++ row :: after) = before ++ { row with enabled := enabled } :: after := by
    rw [change, List.map_append, List.map_cons, if_pos rfl, ← change, ← change, hsame before hb,
      hsame after ha]
  rw [setEnabled, if_pos (has_middle before after row), hchange]

end OneRow

theorem get_of_absent {id : String} (h : id ∉ t.map Row.id) : t.get id = .ok none := by
  have hf : t.find? (·.id == id) = none := by
    refine List.find?_eq_none.mpr fun r hr hid => h ?_
    exact beq_iff_eq.mp hid ▸ List.mem_map_of_mem hr
  rw [get, hf]

section Listing

theorem getElem?_of_list (hl : Table.list (before ++ row :: after) = .ok rules) :
    ∃ r, rules[before.length]? = some r ∧ row.rule = .ok r := by
  obtain ⟨hlength, hrules⟩ := List.forall₂_iff_get.mp (list_eq_ok_iff.mp hl)
  have hb : before.length < (before ++ row :: after).length := by simp
  have hr : before.length < rules.length := hlength ▸ hb
  refine ⟨rules[before.length], List.getElem?_eq_getElem hr, ?_⟩
  simpa using hrules before.length hb hr

/-- The listing of all rows and the calls about one, for any content of the table. -/
theorem first_unreadable_row_decides_listing {t : Table} (hn : (t.map Row.id).Nodup) :
    (∀ rules, t.list = .ok rules ↔ List.Forall₂ Row.ReadsAs t rules) ∧
    ((∃ rules, t.list = .ok rules) ↔ ∀ row ∈ t, row.IsReadable) ∧
    (∀ fault, t.list = .error fault ↔ ∃ before row after part, t = before ++ row :: after ∧
      (∀ r ∈ before, r.IsReadable) ∧ row.BreaksAt part ∧ fault = part.fault row) ∧
    (∀ before row after, t = before ++ row :: after →
      t.get row.id = row.rule.map some ∧
      (∀ rules, t.list = .ok rules →
        ∃ r, rules[before.length]? = some r ∧ t.get row.id = .ok (some r)) ∧
      (∀ enabled, t.setEnabled row.id enabled =
        .ok (before ++ { row with enabled := enabled } :: after)) ∧
      t.delete row.id = .ok (before ++ after)) ∧
    (∀ id, id ∉ t.map Row.id → t.get id = .ok none) ∧
    t.count = t.length := by
  refine ⟨fun rules => ?_, exists_list_iff, fun fault => ?_, ?_, fun id => get_of_absent, rfl⟩
  · simp only [list_eq_ok_iff, Row.rule_eq_ok_iff_readsAs]
  · simp only [list_eq_error_iff, Row.rule_eq_error_iff]
    constructor
    · rintro ⟨before, row, after, he, hb, part, hp, hf⟩
      exact ⟨before, row, after, part, he, hb, hp, hf⟩
    · rintro ⟨before, row, after, part, he, hb, hp, hf⟩
      exact ⟨before, row, after, he, hb, part, hp, hf⟩
  · rintro before row after rfl
    refine ⟨get_middle hn, fun rules hl => ?_, setEnabled_middle hn, delete_middle hn⟩
    obtain ⟨r, hr, hrule⟩ := getElem?_of_list hl
    refine ⟨r, hr, ?_⟩
    rw [get_middle hn, hrule]
    rfl

def plainRow (id : String) : Row :=
  ⟨id, none, "U9", 0, true, "[]", "[[\"delete\"]]"⟩

def timelessRow : Row :=
  ⟨"r2", none, "U9", 8210266876800000, true, "7", "[[\"delete\"]]"⟩

def shoutingRow : Row :=
  ⟨"r3", none, "U9", 0, true, "[]", "[\"shout\"]"⟩

def brokenTable : Table :=
  [plainRow "r1", timelessRow, shoutingRow, plainRow "r4"]

theorem broken_rows_listed_and_removed :
    (brokenTable.map Row.id).Nodup ∧
    brokenTable.list = .error (.badTime "r2" 8210266876800000) ∧
    brokenTable.get "r3" = .error (@TableFault.undecodable .actions) ∧
    brokenTable.delete "r2" = .ok [plainRow "r1", shoutingRow, plainRow "r4"] := by
  have hn : (brokenTable.map Row.id).Nodup := by decide +kernel
  have hplain : ∀ r ∈ [plainRow "r1"], r.IsReadable := by decide +kernel
  have hshout : shoutingRow.BreaksAt .actions :=
    .actions (by decide +kernel) (by decide +kernel) (by decide +kernel)
  obtain ⟨-, -, hlist, hrow, -, -⟩ := first_unreadable_row_decides_listing hn
  obtain ⟨hget, -, -, -⟩ := hrow [plainRow "r1", timelessRow] shoutingRow [plainRow "r4"] rfl
  obtain ⟨-, -, -, hdelete⟩ := hrow [plainRow "r1"] timelessRow [shoutingRow, plainRow "r4"] rfl
  rw [Row.rule_eq_error_iff.mpr ⟨.actions, hshout, rfl⟩] at hget
  refine ⟨hn, (hlist _).mpr ⟨[plainRow "r1"], timelessRow, [shoutingRow, plainRow "r4"], .time, rfl,
    hplain, .time (by decide +kernel), rfl⟩, hget, hdelete⟩

end Listing

end Table

namespace Command

inductive AsksToDelete (stamp : Stamp) (sender : User) (id : String) :
    Script (Except Fault Reply) → Prop
  | words {sub : List Char} (more : List (List Char)) (h : lower sub = "delete".toList) :
    AsksToDelete stamp sender id (execute stamp sender (sub :: id.toList :: more))
  | line {line : List Char} (h : Intent.ofLine stamp sender line = .delete id) :
    AsksToDelete stamp sender id (executeLine stamp sender line)

variable {stamp : Stamp} {sender : User} {id : String} {script : Script (Except Fault Reply)}

theorem AsksToDelete.eq_delete (h : AsksToDelete stamp sender id script) : script = delete id := by
  cases h with
  | words more h =>
    rw [execute_eq_script, Intent.ofWords_delete h, Intent.about, String.ofList_toList]
    rfl
  | line h =>
    rw [executeLine_eq_script, h]
    rfl

section Running
variable {t t' : Table} {r : Rule}

theorem run_delete_of_fault {fault : TableFault} (hg : t.get id = .error fault) :
    (delete id).run Table.backend t = (.error fault.toFault, t) := by
  have hget : Table.backend (.get id) t = (.error fault.toFault, t) := by
    rw [Table.backend, hg]
    rfl
  rw [delete, Script.run, hget]
  rfl

theorem run_delete_of_found (hg : t.get id = .ok (some r)) (hd : t.delete id = .ok t') :
    (delete id).run Table.backend t = (.ok (.say ("Workflow " ++ id ++ " deleted")), t') := by
  have hget : Table.backend (.get id) t = (.ok (some r), t) := by
    rw [Table.backend, hg]
    rfl
  have hdelete : Table.backend (.delete id) t = (.ok (), t') := by
    rw [Table.backend, hd]
    rfl
  rw [delete, Script.run, hget]
  simp only [need, Script.run, hdelete]

end Running

section Rows
variable {before after : Table} {row : Row}

/-- Only a row that reads is deleted by a command; the table itself would remove any. -/
theorem command_deletes_row_iff_readable (hn : ((before ++ row :: after).map Row.id).Nodup)
    (hs : AsksToDelete stamp sender row.id script) :
    (script.run Table.backend (before ++ row :: after) =
      (.ok (.say ("Workflow " ++ row.id ++ " deleted")), before ++ after) ↔ row.IsReadable) ∧
    (∀ part, row.BreaksAt part → script.run Table.backend (before ++ row :: after) =
      (.error (part.fault row).toFault, before ++ row :: after)) ∧
    Table.delete row.id (before ++ row :: after) = .ok (before ++ after) := by
  have hget := Table.get_middle hn
  have hdelete := Table.delete_middle hn
  have hbroken (part : Row.Part) (hb : row.BreaksAt part) :
      script.run Table.backend (before ++ row :: after) =
        (.error (part.fault row).toFault, before ++ row :: after) := by
    rw [Row.rule_eq_error_iff.mpr ⟨part, hb, rfl⟩] at hget
    rw [hs.eq_delete, run_delete_of_fault hget]
  refine ⟨?_, hbroken, hdelete⟩
  rcases Row.rule_cases row with ⟨hr, r, hrule⟩ | ⟨part, hb, -⟩
  · refine iff_of_true ?_ hr
    rw [hrule] at hget
    rw [hs.eq_delete, run_delete_of_found hget hdelete]
  · refine iff_of_false (fun h => ?_) hb.not_isReadable
    rw [hbroken part hb] at h
    cases congrArg Prod.fst h

theorem broken_row_not_deleted :
    (Table.brokenTable.map Row.id).Nodup ∧
    (executeLine ⟨"r5", Session.epoch⟩ ⟨"U1", "john"⟩ "delete r2".toList).run Table.backend
      Table.brokenTable =
        (.error (TableFault.badTime "r2" 8210266876800000).toFault, Table.brokenTable) ∧
    (executeLine ⟨"r5", Session.epoch⟩ ⟨"U1", "john"⟩ "Delete  r4 now".toList).run Table.backend
      Table.brokenTable =
        (.ok (.say "Workflow r4 deleted"),
          [Table.plainRow "r1", Table.timelessRow, Table.shoutingRow]) := by
  have hn : (Table.brokenTable.map Row.id).Nodup := by decide +kernel
  have hasks (line : List Char) (id : String)
      (h : Intent.ofLine ⟨"r5", Session.epoch⟩ ⟨"U1", "john"⟩ line = .delete id) :
      AsksToDelete ⟨"r5", Session.epoch⟩ ⟨"U1", "john"⟩ id
        (executeLine ⟨"r5", Session.epoch⟩ ⟨"U1", "john"⟩ line) := .line h
  have hsecond : (([Table.plainRow "r1"] ++ Table.timelessRow ::
      [Table.shoutingRow, Table.plainRow "r4"]).map Row.id).Nodup := hn
  have hlast : (([Table.plainRow "r1", Table.timelessRow, Table.shoutingRow] ++
      Table.plainRow "r4" :: []).map Row.id).Nodup := hn
  obtain ⟨-, hbroken, -⟩ := command_deletes_row_iff_readable hsecond
    (hasks "delete r2".toList _ (by decide +kernel))
  obtain ⟨hplain, -, -⟩ := command_deletes_row_iff_readable hlast
    (hasks "Delete  r4 now".toList _ (by decide +kernel))
  exact ⟨hn, hbroken .time (.time (by decide +kernel)), hplain.mpr (by decide +kernel)⟩

end Rows

end Command

end ChatRules
