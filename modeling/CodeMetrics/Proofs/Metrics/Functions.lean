import CodeMetrics.Metrics.Result
import CodeMetrics.Proofs.Metrics.Counts
import CodeMetrics.Proofs.OrderedTable
import CodeMetrics.Proofs.Tree.Links
import Mathlib.Data.Finset.Card
import Mathlib.Data.Finset.Dedup

/-!
# The functions of a file

A walk over a file writes a record under the name of every declaration it
meets.  What it leaves behind depends on the list of declarations in pre-order
alone (`Cursor.scan_functions`): the first declaration of a name decides where
its entry stands and the last one what it holds
(`Cursor.analyze_functions_registry`).  So the records are those of the
declarations that are the last of their names
(`Cursor.mem_values_scan_functions`).  All that the walk reports is at the lowest
level (`Cursor.scan_events_level`).
-/

namespace CodeMetrics

namespace Cursor

/-- The declarations of the subtree in pre-order, nested ones included. -/
def declarations (c : Cursor) : List Cursor := c.subtree.filter isDeclaration

/-- A declaration writes its record under its name, and no other node touches the table. -/
theorem visit_functions (callee : String) (links : Parents) (s : FileScan) (d : Cursor) :
    (s.visit callee links d).functions =
      if d.isDeclaration then s.functions.insert d.functionName d.functionRecord
      else s.functions := by
  show (if d.kind = .functionDeclaration then s.declare d else s).functions = _
  by_cases h : d.kind = .functionDeclaration
  · have hd : d.isDeclaration = true := beq_iff_eq.mpr h
    rw [if_pos hd, if_pos h]
    rfl
  · have hd : ¬ d.isDeclaration = true := fun hd => h (beq_iff_eq.mp hd)
    rw [if_neg hd, if_neg h]

/-- The table of a scan is the table of the declarations in pre-order. -/
theorem scan_functions (callee : String) (r : Cursor) :
    (r.scan callee).functions =
      OrderedTable.ofList (r.declarations.map (fun d => (d.functionName, d.functionRecord))) := by
  have hwalk : (r.scan callee).functions =
      r.subtree.foldl (fun t d =>
        if d.isDeclaration then t.insert d.functionName d.functionRecord else t) {} :=
    walk_state_hom FileScan.functions _
      (fun front d _ _ s => visit_functions callee (Parents.empty.linkAll front) s d) {}
  rw [hwalk, OrderedTable.ofList, List.foldl_map, declarations, List.foldl_filter]
  rfl

/-- The declaration is the last one of its name. -/
def LastOfName (r d : Cursor) : Prop :=
  (r.declarations.filter (fun e => e.functionName == d.functionName)).getLast? = some d

instance (r d : Cursor) : Decidable (LastOfName r d) := inferInstanceAs (Decidable (_ = _))

theorem LastOfName.mem_declarations {r d : Cursor} (h : LastOfName r d) : d ∈ r.declarations :=
  List.mem_of_mem_filter (List.mem_of_getLast? h)

/-- Where no name is declared twice, every declaration is the last one of its name. -/
theorem lastOfName_of_nodup {r d : Cursor} (distinct : (r.declarations.map functionName).Nodup)
    (h : d ∈ r.declarations) : LastOfName r d := by
  have hmem : d ∈ r.declarations.filter (fun e => e.functionName == d.functionName) :=
    List.mem_filter.mpr ⟨h, beq_self_eq_true _⟩
  unfold LastOfName
  cases hlast : (r.declarations.filter (fun e => e.functionName == d.functionName)).getLast? with
  | none =>
    rw [List.getLast?_eq_none_iff] at hlast
    rw [hlast] at hmem
    cases hmem
  | some e =>
    obtain ⟨he, hname⟩ := List.mem_filter.mp (List.mem_of_getLast? hlast)
    rw [List.inj_on_of_nodup_map distinct he h (beq_iff_eq.mp hname)]

/-- A scan leaves the records of the declarations that are the last of their names. -/
theorem mem_values_scan_functions {callee : String} {r : Cursor} {record : FunctionRecord} :
    record ∈ (r.scan callee).functions.values ↔
      ∃ d, LastOfName r d ∧ d.functionRecord = record := by
  -- under a name stands the record of its last declaration, and no name stands there twice
  have hget : ∀ name, (r.scan callee).functions.get? name =
      ((r.declarations.filter (fun d => d.functionName == name)).getLast?).map functionRecord := by
    intro name
    rw [scan_functions, OrderedTable.get?_ofList, List.filter_map, List.getLast?_map,
      Option.map_map]
    rfl
  have hnodup : (r.scan callee).functions.keys.Nodup := by
    rw [scan_functions]
    exact OrderedTable.nodup_keys_ofList _
  constructor
  · intro h
    obtain ⟨e, he, rfl⟩ := List.mem_map.mp h
    have hentry := OrderedTable.get?_of_mem hnodup he
    rw [hget] at hentry
    obtain ⟨d, hlast, hd⟩ := Option.map_eq_some_iff.mp hentry
    have hname : d.functionName = e.1 :=
      beq_iff_eq.mp (List.mem_filter.mp (List.mem_of_getLast? hlast)).2
    exact ⟨d, by rw [LastOfName, hname, hlast], hd⟩
  · rintro ⟨d, hlast, rfl⟩
    have hentry : (r.scan callee).functions.get? d.functionName = some d.functionRecord := by
      rw [hget, hlast, Option.map_some]
    exact List.mem_map.mpr ⟨_, OrderedTable.mem_of_get? hentry, rfl⟩

/-! ## Reports -/

/-- Measuring a declaration and writing its record is reported at the lowest level only. -/
theorem declare_events_level {s : FileScan} (h : ∀ e ∈ s.events, e.level = .debug) (d : Cursor) :
    ∀ e ∈ (s.declare d).events, e.level = .debug := by
  intro e he
  simp only [FileScan.declare, measure, measureEvents, List.mem_append, List.mem_singleton] at he
  rcases he with ((he | he) | he) | rfl
  · exact h e he
  · split at he
    · cases he
    · rw [List.mem_singleton.mp he]
      rfl
  · split at he
    · rw [List.mem_singleton.mp he]
      rfl
    · cases he
  · rfl

/-- A scan reports at the lowest level only. -/
theorem scan_events_level (callee : String) (r : Cursor) :
    ∀ e ∈ (r.scan callee).events, e.level = .debug := by
  let atDebug (s : FileScan) : Prop := ∀ e ∈ s.events, e.level = .debug
  have hstart : atDebug {} := by simp [atDebug]
  suffices hvisit : ∀ links s d, atDebug s → atDebug (s.visit callee links d) from
    walk_invariant hvisit r Parents.empty hstart
  intro links s d hs
  show ∀ e ∈ (if d.kind = .functionDeclaration then s.declare d else s).events, _
  by_cases hd : d.kind = .functionDeclaration
  · rw [if_pos hd]
    exact declare_events_level hs d
  · rw [if_neg hd]
    exact hs

end Cursor

/-! ## The registry -/

namespace Analysis

theorem registry_keys (a : Analysis) :
    a.registry.map (·.1) = .file a.file.path :: a.functions.keys.map .function := by
  rw [registry, List.map_cons, List.map_map, OrderedTable.keys, List.map_map]
  rfl

theorem registry_length (a : Analysis) : a.registry.length = 1 + a.functions.keys.length := by
  rw [registry, List.length_cons, List.length_map, OrderedTable.keys, List.length_map, Nat.add_comm]

/-- Names listed once give keys listed once, and the key of the file is none of them. -/
theorem registry_keys_nodup {a : Analysis} (h : a.functions.keys.Nodup) :
    (a.registry.map (·.1)).Nodup := by
  rw [registry_keys, List.nodup_cons]
  constructor
  · intro hmem
    obtain ⟨name, _, hname⟩ := List.mem_map.mp hmem
    cases hname
  · refine h.map ?_
    intro x y hxy
    exact RegistryKey.function.inj hxy

end Analysis

namespace Cursor

/-- The table of an analysis has the distinct names of the declarations for its keys, in the order
of their first declarations.  Under each name stands the record of its last declaration, and every
record carries the name it stands under.  The registry lists the file and then the names in the
same order, each key once. -/
theorem analyze_functions_registry (r : Cursor) (path language callee : String) :
    let a := (r.analyze path language callee).1
    let names := r.declarations.map functionName
    a.functions.keys = names.eraseDups ∧
    (∀ name, a.functions.get? name =
      ((r.declarations.filter (fun d => d.functionName == name)).getLast?).map
        (fun d => d.measure.1)) ∧
    (∀ e ∈ a.functions.entries, e.2.name = e.1) ∧
    a.registry.map (·.1) = .file path :: names.eraseDups.map .function ∧
    (a.registry.map (·.1)).Nodup ∧
    a.registry.length = 1 + names.toFinset.card := by
  intro a names
  have hfunctions : a.functions =
      OrderedTable.ofList (r.declarations.map (fun d => (d.functionName, d.functionRecord))) :=
    scan_functions callee r
  have hkeys : a.functions.keys = names.eraseDups := by
    rw [hfunctions, OrderedTable.keys_ofList, List.map_map]
    rfl
  have hnodup : a.functions.keys.Nodup := by
    rw [hfunctions]
    exact OrderedTable.nodup_keys_ofList _
  refine ⟨hkeys, ?_, ?_, ?_, Analysis.registry_keys_nodup hnodup, ?_⟩
  · intro name
    rw [hfunctions, OrderedTable.get?_ofList, List.filter_map, List.getLast?_map, Option.map_map]
    rfl
  · intro e he
    rw [hfunctions] at he
    obtain ⟨d, _, rfl⟩ := List.mem_map.mp (OrderedTable.mem_of_mem_entries_ofList he)
    rfl
  · rw [Analysis.registry_keys, hkeys]
    rfl
  · have hset : names.toFinset = a.functions.keys.toFinset := by
      ext name
      rw [List.mem_toFinset, List.mem_toFinset, hkeys, List.mem_eraseDups]
    rw [Analysis.registry_length, hset, List.toFinset_card_of_nodup hnodup]

end Cursor

end CodeMetrics
