import CodeMetrics.Proofs.Failure
import CodeMetrics.Proofs.OrderedTable
import CodeMetrics.Toml.Document

/-!
# Keys of TOML documents

A key can be written once, and what later statements add goes into the entry
that is there.  So the table that a document describes has no key twice: every
change of a table keeps its keys distinct (`Toml.distinctKeys_updateAt`), hence
so does every statement (`Toml.distinctKeys_statement`), and hence so does the
reading of all lines (`Toml.distinctKeys_read`).
-/

namespace CodeMetrics

namespace Toml

/-- No key stands in two entries. -/
def DistinctKeys (t : Entries) : Prop := (OrderedTable.mk t).keys.Nodup

/-! ## One table -/

theorem distinctKeys_put {t : Entries} (distinct : DistinctKeys t) (k : String) (v : Value) :
    DistinctKeys (OrderedTable.put k v t) :=
  OrderedTable.nodup_keys_insert distinct k v

theorem not_mem_keys_of_get?_eq_none {t : Entries} (distinct : DistinctKeys t) {k : String}
    (h : Entries.get? t k = none) : k ∉ (OrderedTable.mk t).keys := by
  intro hk
  obtain ⟨e, he, rfl⟩ := List.mem_map.mp hk
  have hget : Entries.get? t e.1 = some e.2 := OrderedTable.get?_of_mem distinct he
  rw [h] at hget
  cases hget

/-- An entry at the end, under a key that is new. -/
theorem distinctKeys_concat {t : Entries} (distinct : DistinctKeys t) {k : String} (v : Value)
    (h : Entries.get? t k = none) : DistinctKeys (t ++ [(k, v)]) := by
  have hnew := not_mem_keys_of_get?_eq_none distinct h
  have hkeys : (OrderedTable.mk (t ++ [(k, v)])).keys = (OrderedTable.mk t).keys ++ [k] :=
    List.map_append
  unfold DistinctKeys
  rw [hkeys, List.nodup_append]
  refine ⟨distinct, List.nodup_singleton k, ?_⟩
  intro x hx y hy hxy
  rw [List.mem_singleton.mp hy] at hxy
  exact hnew (hxy ▸ hx)

theorem distinctKeys_addEntry {k : String} {v : Value} {t u : Entries}
    (distinct : DistinctKeys t) (h : addEntry k v t = .ok u) : DistinctKeys u := by
  unfold addEntry at h
  split at h
  · cases h
  · rename_i hnone
    cases h
    exact distinctKeys_concat distinct v hnone

theorem distinctKeys_addTable {k : String} {t u : Entries} (distinct : DistinctKeys t)
    (h : addTable k t = .ok u) : DistinctKeys u := by
  unfold addTable at h
  split at h
  · rename_i hnone
    cases h
    exact distinctKeys_concat distinct _ hnone
  · cases h
    exact distinctKeys_put distinct k _
  · cases h

/-- Changing the table behind a dotted key puts one entry back in its place, so only a change of the
table itself can bring new keys. -/
theorem distinctKeys_updateAt {intoArrays : Bool} {change : Entries → Except Fault Entries}
    (hchange : ∀ {t u}, DistinctKeys t → change t = .ok u → DistinctKeys u)
    {path : List String} {t u : Entries} (distinct : DistinctKeys t)
    (h : updateAt intoArrays change path t = .ok u) : DistinctKeys u := by
  cases path with
  | nil =>
    rw [updateAt] at h
    exact hchange distinct h
  | cons k ks =>
    rw [updateAt] at h
    -- a new table, a table that is there, or the last table of an array
    split at h
    · obtain ⟨inner, _, hu⟩ := exists_of_bind_eq_ok h
      cases hu
      exact distinctKeys_put distinct k _
    · obtain ⟨inner, _, hu⟩ := exists_of_bind_eq_ok h
      cases hu
      exact distinctKeys_put distinct k _
    · split at h
      · obtain ⟨inner, _, hu⟩ := exists_of_bind_eq_ok h
        cases hu
        exact distinctKeys_put distinct k _
      · cases h
    · cases h

/-! ## Statements -/

theorem distinctKeys_entry {levels : Nat} {p q : Progress} {cs rest : List Char}
    (distinct : DistinctKeys p.data) (h : entry levels p cs = .ok (q, rest)) :
    DistinctKeys q.data := by
  unfold entry at h
  obtain ⟨⟨path, behind⟩, _, h⟩ := exists_of_bind_eq_ok h
  dsimp only at h
  split at h
  · obtain ⟨_, _, h⟩ := exists_of_bind_eq_ok h
    obtain ⟨⟨v, _⟩, _, h⟩ := exists_of_bind_eq_ok h
    dsimp only at h
    split at h
    · cases h
    · obtain ⟨data, hdata, h⟩ := exists_of_bind_eq_ok h
      cases h
      exact distinctKeys_updateAt distinctKeys_addEntry distinct hdata
  · cases h

theorem distinctKeys_tableHeading {p q : Progress} {cs rest : List Char}
    (distinct : DistinctKeys p.data) (h : tableHeading p cs = .ok (q, rest)) :
    DistinctKeys q.data := by
  unfold tableHeading at h
  obtain ⟨⟨path, behind⟩, _, h⟩ := exists_of_bind_eq_ok h
  dsimp only at h
  split at h
  · cases h
  · obtain ⟨data, hdata, h⟩ := exists_of_bind_eq_ok h
    have hok : ∀ {t u : Entries}, DistinctKeys t → (Except.ok t : Except Fault Entries) = .ok u →
        DistinctKeys u := by
      intro t u ht hu
      cases hu
      exact ht
    split at h
    · cases h
      exact distinctKeys_updateAt hok distinct hdata
    · cases h

theorem distinctKeys_arrayHeading {p q : Progress} {cs rest : List Char}
    (distinct : DistinctKeys p.data) (h : arrayHeading p cs = .ok (q, rest)) :
    DistinctKeys q.data := by
  unfold arrayHeading at h
  obtain ⟨⟨path, behind⟩, _, h⟩ := exists_of_bind_eq_ok h
  dsimp only at h
  split at h
  · cases h
  · obtain ⟨data, hdata, h⟩ := exists_of_bind_eq_ok h
    split at h
    · cases h
      exact distinctKeys_updateAt distinctKeys_addTable distinct hdata
    · cases h

/-- A statement leaves the keys at the top distinct. -/
theorem distinctKeys_statement {levels : Nat} {p q : Progress} {cs rest : List Char}
    (distinct : DistinctKeys p.data) (h : statement levels p cs = .ok (q, rest)) :
    DistinctKeys q.data := by
  unfold statement at h
  split at h
  · exact distinctKeys_arrayHeading distinct h
  · exact distinctKeys_tableHeading distinct h
  · split at h
    · exact distinctKeys_entry distinct h
    · split at h
      · cases h
        exact distinct
      · cases h
  · cases h
    exact distinct

/-- So do any number of lines. -/
theorem distinctKeys_statementsWithin {levels fuel : Nat} {p q : Progress} {cs : List Char}
    (distinct : DistinctKeys p.data) (h : statementsWithin levels fuel p cs = .ok q) :
    DistinctKeys q.data := by
  induction fuel generalizing p cs with
  | zero => cases h
  | succ fuel ih =>
    rw [statementsWithin] at h
    obtain ⟨⟨next, rest⟩, hnext, h⟩ := exists_of_bind_eq_ok h
    have hdistinct := distinctKeys_statement distinct hnext
    dsimp only at h
    obtain ⟨behind, _, h⟩ := exists_of_bind_eq_ok h
    split at h
    · cases h
      exact hdistinct
    · exact ih hdistinct h
    · cases h

theorem distinctKeys_read {levels : Nat} {s : String} {t : Entries} (h : read levels s = .ok t) :
    DistinctKeys t := by
  unfold read at h
  obtain ⟨p, hp, h⟩ := exists_of_bind_eq_ok h
  cases h
  have hempty : DistinctKeys ({} : Progress).data := List.nodup_nil
  exact distinctKeys_statementsWithin hempty hp

end Toml

end CodeMetrics
